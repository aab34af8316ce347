import SelfCheck.Sorted

/-! JSON values: what models, answers and payloads are made of. -/

set_option autoImplicit false

namespace SelfCheck

/-- A number is whole, or a double. -/
inductive Json.Number where
  | whole (n : Int)
  | real (x : Float)
  deriving Repr, Inhabited

/-- The members of an object are in the order of their keys, each key once. -/
inductive Json where
  | null
  | bool (b : Bool)
  | number (n : Json.Number)
  | string (s : String)
  | array (items : List Json)
  | object (members : List (String × Json))
  deriving Repr, Inhabited

namespace Json

def nat (n : Nat) : Json := .number (.whole n)

/-- An object of these members; of equal keys the last one counts. -/
def ofMembers (members : List (String × Json)) : Json := .object (Sorted.ofList members)

/-- What a key is bound to. -/
def member? (key : String) : Json → Option Json
  | .object members => members.lookup key
  | _ => none

def ofOption (value : Option Json) : Json := value.getD .null

end Json

end SelfCheck
