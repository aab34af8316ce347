import SelfCheck.Frame.Checksum
import SelfCheck.Json
import SelfCheck.Message

/-! A message as the platform gets it. -/

set_option autoImplicit false

namespace SelfCheck.Message

/-- A label and a value under the given names. -/
def pairJson (labelName label value : String) : Json :=
  .ofMembers [(labelName, .string label), ("value", .string value)]

def toJson (message : Message) : Json :=
  .ofMembers [
    ("code", .string message.code),
    ("command", .ofOption (message.command.map (.string ·.name))),
    ("fixed", .array (message.fixed.map fun field => pairJson "name" field.name field.value)),
    ("variable", .array (message.tagged.map fun field => pairJson "tag" field.tag field.value)),
    ("sequence", .ofOption (message.sequence.map (.nat ·.val))),
    ("checksum", .ofOption (message.checksum.map (.string <| Frame.hexWord ·)))]

end SelfCheck.Message
