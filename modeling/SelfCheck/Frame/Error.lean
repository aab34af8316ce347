import SelfCheck.Frame.Checksum
import SelfCheck.Text.Quoted

/-! What can be wrong with a frame. -/

set_option autoImplicit false

namespace SelfCheck

inductive FrameError where
  /-- More bytes than a frame may have, before any delimiter. -/
  | tooLarge (length limit : Nat)
  /-- Fewer bytes left than a positional field needs. -/
  | truncated (field : String) (need found : Nat)
  /-- A tagged field without a delimiter behind it. -/
  | unterminated (tag : String)
  | badChecksum (expected : UInt16) (received : String)
  | badSequence (digit : Char)
  deriving DecidableEq, Repr

namespace FrameError

def message : FrameError → String
  | tooLarge length limit =>
    "frame exceeds maximum size: len=" ++ toString length ++ " max=" ++ toString limit
  | truncated field need found =>
    "truncated field " ++ field ++ ": need=" ++ toString need ++ " have=" ++ toString found
  | unterminated tag =>
    "variable field " ++ Text.quoted tag ++ " is not delimiter-terminated"
  | badChecksum expected received =>
    "checksum mismatch: expected=" ++ Frame.hexWord expected ++ " received=" ++ received
  | badSequence digit => "invalid sequence number: " ++ Text.quotedChar digit

end FrameError

/-- The kinds of malformed frames that are counted apart. -/
inductive Malformation where
  | frameTooLarge
  | truncatedField
  | missingDelimiter
  | badChecksum
  | invalidSequence
  deriving DecidableEq, Repr

def Malformation.name : Malformation → String
  | frameTooLarge => "frame_too_large"
  | truncatedField => "truncated_field"
  | missingDelimiter => "missing_delimiter"
  | badChecksum => "bad_checksum"
  | invalidSequence => "invalid_sequence"

def Malformation.all : List Malformation :=
  [frameTooLarge, truncatedField, missingDelimiter, badChecksum, invalidSequence]

def FrameError.kind : FrameError → Malformation
  | tooLarge .. => .frameTooLarge
  | truncated .. => .truncatedField
  | unterminated _ => .missingDelimiter
  | badChecksum .. => .badChecksum
  | badSequence _ => .invalidSequence

end SelfCheck
