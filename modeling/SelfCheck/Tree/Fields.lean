import SelfCheck.Json
import SelfCheck.Text.Numeral
import SelfCheck.Tree

/-! Reading typed data out of a document tree.

A structure may be written as a record, or as the list of its members in order. A known member may
stand only once.
-/

set_option autoImplicit false

namespace SelfCheck.Tree

variable {α : Type}

def text? : Tree → Option String
  | .text s => some s
  | _ => none

def bool? : Tree → Option Bool
  | .bool b => some b
  | _ => none

/-- A whole number from zero up to `limit`. -/
def nat? (limit : Nat) : Tree → Option Nat
  | .whole (.ofNat n) => if n ≤ limit then some n else none
  | _ => none

/-- A text of one character. -/
def char? : Tree → Option Char
  | .text s =>
    match s.toList with
    | [c] => some c
    | _ => none
  | _ => none

/-- A part that may also be written as nothing. -/
def nullable (read : Tree → Option α) : Tree → Option (Option α)
  | .null => some none
  | tree => (read tree).map some

def listOf (read : Tree → Option α) : Tree → Option (List α)
  | .list items => items.mapM read
  | _ => none

def recordOf (read : Tree → Option α) : Tree → Option (List (String × α))
  | .record members => members.mapM fun (key, value) => (read value).map (key, ·)
  | _ => none

mutual

/-- Whether all parts hold that have no parts of their own. -/
def allLeaves (holds : Tree → Bool) : Tree → Bool
  | .list items => allItems holds items
  | .record members => allMembers holds members
  | leaf => holds leaf

def allItems (holds : Tree → Bool) : List Tree → Bool
  | [] => true
  | item :: items => allLeaves holds item && allItems holds items

def allMembers (holds : Tree → Bool) : List (String × Tree) → Bool
  | [] => true
  | (_, value) :: members => allLeaves holds value && allMembers holds members

end

def isBroken : Tree → Bool
  | .broken => true
  | _ => false

/-- Whether a number fits into a machine word, with a sign or without one. -/
def fitsWord : Tree → Bool
  | .whole n => -0x8000000000000000 ≤ n && n ≤ Text.maxWord
  | _ => true

/-- The members of a structure. In a list only members behind the last one written may be left
out, and only those with a default. -/
structure Fields where
  members : List (String × Tree)
  positional : Bool

/-- How a format takes what a structure has no place for. -/
inductive Surplus where
  /-- Members of other names are skipped unread; a list that is longer is refused. -/
  | refused
  /-- Members of other names must stand for something; in a list nobody looks behind the last
  member. -/
  | ignored
  deriving DecidableEq, Repr

/-- The known members of a structure. -/
def fields? (surplus : Surplus) (names : List String) : Tree → Option Fields
  | .record members =>
    let (known, others) := members.partition fun (key, _) => names.contains key
    if (known.map (·.1)).Nodup && (surplus = .refused || allMembers (!·.isBroken) others) then
      some ⟨known, false⟩
    else none
  | .list items =>
    if names.length < items.length && surplus = .refused then none
    else some ⟨names.zip items, true⟩
  | _ => none

namespace Fields

/-- A member that has a default. -/
def withDefault (fields : Fields) (name : String) (read : Tree → Option α) (default : α) :
    Option α :=
  match fields.members.lookup name with
  | some tree => read tree
  | none => some default

def required (fields : Fields) (name : String) (read : Tree → Option α) : Option α :=
  (fields.members.lookup name).bind read

/-- A member that may be absent from a record. -/
def optional (fields : Fields) (name : String) (read : Tree → Option α) : Option (Option α) :=
  match fields.members.lookup name with
  | some tree => nullable read tree
  | none => if fields.positional then none else some none

end Fields

mutual

/-- The tree that says what a value says. -/
def ofJson : Json → Tree
  | .null => .null
  | .bool b => .bool b
  | .number (.whole n) => .whole n
  | .number (.real x) => .real x
  | .string s => .text s
  | .array items => .list (ofItems items)
  | .object members => .record (ofMembers members)

def ofItems : List Json → List Tree
  | [] => []
  | item :: items => ofJson item :: ofItems items

def ofMembers : List (String × Json) → List (String × Tree)
  | [] => []
  | (key, value) :: members => (key, ofJson value) :: ofMembers members

end

end SelfCheck.Tree
