import SelfCheck.Frame.Trailer
import SelfCheck.Message

/-! Writing a message back: the text its frame was read from. -/

set_option autoImplicit false

namespace SelfCheck.Message

/-- A tagged field and the delimiter behind it. -/
def taggedText (delimiter : Char) (field : TaggedField) : String :=
  field.tag ++ field.value ++ delimiter.toString

/-- Code, positional fields and tagged fields, without a trailer. -/
def body (delimiter : Char) (code : String) (fixed : List String) (tagged : List TaggedField) :
    String :=
  code ++ String.join fixed ++ String.join (tagged.map (taggedText delimiter))

/-- The trailer that says what a message's own trailer said. -/
def trailerBytes (message : Message) : List UInt8 :=
  (match message.sequence with
    | some digit => Frame.sequenceTag ++ [48 + UInt8.ofNat digit.val]
    | none => []) ++
  (match message.checksum with
    | some word => Frame.checksumTag ++ Text.bytesOf (Frame.hexWord word)
    | none => [])

/-- The bytes of a message, without a message delimiter. -/
def print (message : Message) (delimiter : Char) : List UInt8 :=
  Text.bytesOf (body delimiter message.code (message.fixed.map (·.value)) message.tagged) ++
    message.trailerBytes

end SelfCheck.Message
