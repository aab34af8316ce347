import SelfCheck.Command.Layout

/-! Requests as they are understood: code, positional fields, tagged fields and trailer. -/

set_option autoImplicit false

namespace SelfCheck

structure FixedField where
  name : String
  value : String
  deriving DecidableEq, Repr

structure TaggedField where
  tag : String
  value : String
  deriving DecidableEq, Repr

/-- One request. The code is kept when it names no command. -/
structure Message where
  code : String
  command : Option Command
  fixed : List FixedField
  tagged : List TaggedField
  sequence : Option (Fin 10)
  checksum : Option UInt16
  deriving DecidableEq, Repr

namespace Message

/-- Every value under a tag, in wire order. -/
def fields (message : Message) (tag : String) : List String :=
  (message.tagged.filter (·.tag = tag)).map (·.value)

/-- The first value under a tag. -/
def field? (message : Message) (tag : String) : Option String :=
  (message.tagged.find? (·.tag = tag)).map (·.value)

def fixed? (message : Message) (name : String) : Option String :=
  (message.fixed.find? (·.name = name)).map (·.value)

theorem field?_eq_head? (message : Message) (tag : String) :
    message.field? tag = (message.fields tag).head? := by
  simp [field?, fields, List.head?_filter]

end Message

end SelfCheck
