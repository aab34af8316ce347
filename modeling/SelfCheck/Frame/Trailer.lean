import SelfCheck.Frame.Checksum
import SelfCheck.Text.Utf8

/-! Outgoing frames: a body, its error-detection trailer and the delimiter. -/

set_option autoImplicit false

namespace SelfCheck.Frame

/-- `AY`, before the sequence digit. -/
def sequenceTag : List UInt8 := [65, 89]

/-- `AZ`, before the checksum. -/
def checksumTag : List UInt8 := [65, 90]

/-- What stands between a body and the delimiter. -/
inductive Trailer where
  | none
  | checksum
  | sequenced (number : UInt8)
  deriving DecidableEq, Repr

/-- A number as one digit: sequence digits wrap after nine. -/
def sequenceDigit (number : UInt8) : UInt8 := 48 + number % 10

/-- The bytes with the checksum tag and the checksum of everything before it. -/
def sealed (bytes : List UInt8) : List UInt8 :=
  let covered := bytes ++ checksumTag
  covered ++ Text.bytesOf (hexWord (checksum covered))

def Trailer.append (body : List UInt8) : Trailer → List UInt8
  | none => body
  | checksum => sealed body
  | sequenced number => sealed (body ++ sequenceTag ++ [sequenceDigit number])

/-- One frame as it is sent. -/
def encode (body : String) (trailer : Trailer) (delimiter : UInt8) : List UInt8 :=
  trailer.append (Text.bytesOf body) ++ [delimiter]

/-- The answer that asks the terminal to send its request again. -/
def resendRequest (errorDetection : Bool) (delimiter : UInt8) : List UInt8 :=
  encode "96" (if errorDetection then .checksum else .none) delimiter

end SelfCheck.Frame
