/-! Documents before anybody asks for a type: the common form of what text formats can say. -/

set_option autoImplicit false

namespace SelfCheck

/-- A document's structure. A part is `broken` when its syntax is right but it stands for nothing,
such as a number out of range: it may be skipped, and reading it fails. -/
inductive Tree where
  | null
  | bool (b : Bool)
  | whole (n : Int)
  | real (x : Float)
  | text (s : String)
  | list (items : List Tree)
  | record (members : List (String × Tree))
  | broken
  deriving Repr, Inhabited

end SelfCheck
