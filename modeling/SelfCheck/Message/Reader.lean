import SelfCheck.Frame.Error
import SelfCheck.Frame.Split
import SelfCheck.Frame.Trailer
import SelfCheck.Message
import SelfCheck.Text.Utf8

/-! Reading a frame as a message.

The trailer is taken off the end first: a checksum counts only when all of it is there, and a
sequence digit only in front of a checksum. What is left is the code, the positional fields of the
command and tagged fields, each ended by the field delimiter.
-/

set_option autoImplicit false

namespace SelfCheck.Message

open SelfCheck.Frame

/-- A frame without the line ends behind it. -/
def trimTerminators (raw : List UInt8) : List UInt8 :=
  (raw.reverse.dropWhile fun b => b == carriageReturn || b == lineFeed).reverse

def isHexByte (b : UInt8) : Bool :=
  (48 ≤ b && b ≤ 57) || (65 ≤ b && b ≤ 70) || (97 ≤ b && b ≤ 102)

def isDigitByte (b : UInt8) : Bool := 48 ≤ b && b ≤ 57

/-- A frame split into what the trailer covers and what the trailer says. -/
structure Unwrapped where
  body : List UInt8
  sequence : Option (Fin 10)
  checksum : Option UInt16
  deriving DecidableEq, Repr

/-- Whether the last six bytes are the checksum tag and four hexadecimal digits. -/
def hasChecksum (raw : List UInt8) : Bool :=
  8 ≤ raw.length && (raw.drop (raw.length - 6)).take 2 == checksumTag &&
    (raw.drop (raw.length - 4)).all isHexByte

/-- Take a sequence tag and its digit off the end of a body. -/
def takeSequence (checksum : UInt16) (body : List UInt8) : Except FrameError Unwrapped :=
  let start := body.length - 3
  match body.drop start with
  | [a, y, digit] =>
    if 2 ≤ start && [a, y] == sequenceTag then
      if isDigitByte digit then
        .ok ⟨body.take start, some ⟨(digit.toNat - 48) % 10, Nat.mod_lt _ (by decide)⟩, some checksum⟩
      else .error (.badSequence (Char.ofNat digit.toNat))
    else .ok ⟨body, none, some checksum⟩
  | _ => .ok ⟨body, none, some checksum⟩

/-- Take the trailer off the end of a frame. -/
def unwrap (raw : List UInt8) : Except FrameError Unwrapped :=
  if hasChecksum raw then
    let covered := raw.take (raw.length - 4)
    let received := Text.decode (raw.drop (raw.length - 4))
    if verifies covered received then takeSequence (Frame.checksum covered) (raw.take (raw.length - 6))
    else .error (.badChecksum (Frame.checksum covered) received)
  else .ok ⟨raw, none, none⟩

/-- Read the positional fields; the second part is what stands behind them. -/
def readFixed : List Slot → List UInt8 → Except FrameError (List FixedField × List UInt8)
  | [], rest => .ok ([], rest)
  | slot :: slots, rest =>
    if rest.length < slot.width then .error (.truncated slot.name slot.width rest.length)
    else do
      let (fields, left) ← readFixed slots (rest.drop slot.width)
      return (⟨slot.name, Text.decode (rest.take slot.width)⟩ :: fields, left)

/-- Read tagged fields to the end. -/
def readTagged (delimiter : UInt8) : List UInt8 → Except FrameError (List TaggedField)
  | [] => .ok []
  | [b] => .error (.unterminated (Text.decode [b]))
  | a :: b :: rest =>
    match _found : rest.dropWhile (· != delimiter) with
    | [] => .error (.unterminated (Text.decode [a, b]))
    | _ :: more => do
      let fields ← readTagged delimiter more
      return ⟨Text.decode [a, b], Text.decode (rest.takeWhile (· != delimiter))⟩ :: fields
termination_by bytes => bytes.length
decreasing_by
  have part := (List.dropWhile_suffix (l := rest) (· != delimiter)).length_le
  simp_all
  omega

/-- Read one frame; line ends behind it do not matter. -/
def read (raw : List UInt8) (fieldDelimiter : UInt8) : Except FrameError Message :=
  let raw := trimTerminators raw
  if raw.length < 2 then .error (.truncated "command_code" 2 raw.length)
  else do
    let unwrapped ← unwrap raw
    let code := Text.decode (raw.take 2)
    let command := Command.ofCode? code
    let (fixed, rest) ← readFixed ((command.map Command.layout).getD []) (unwrapped.body.drop 2)
    let tagged ← readTagged fieldDelimiter rest
    return { code, command, fixed, tagged, sequence := unwrapped.sequence, checksum := unwrapped.checksum }

end SelfCheck.Message
