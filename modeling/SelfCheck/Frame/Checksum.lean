import SelfCheck.Text.Blank
import SelfCheck.Text.Numeral

/-! The checksum at the end of a frame: the bytes and their checksum add up to zero in 16 bits. -/

set_option autoImplicit false

namespace SelfCheck.Frame

def byteSum (bytes : List UInt8) : UInt16 :=
  bytes.foldl (fun sum b => sum + b.toUInt16) 0

def checksum (bytes : List UInt8) : UInt16 := -byteSum bytes

/-- A word as four upper-case hexadecimal digits. -/
def hexWord (word : UInt16) : String :=
  let n := word.toNat
  String.ofList <|
    [n / 4096 % 16, n / 256 % 16, n / 16 % 16, n % 16].map Text.upperHexDigit

/-- Whether a received checksum, in either case, is that of the bytes it covers. -/
def verifies (covered : List UInt8) (received : String) : Bool :=
  Text.upperAscii received = hexWord (checksum covered)

end SelfCheck.Frame
