import SelfCheck.Json.Number
import SelfCheck.Tree

/-! Reading JSON.

A text is read as a tree first. The leaves keep what was written even where it stands for nothing,
because a document may hold such a leaf where nobody looks.
-/

set_option autoImplicit false

namespace SelfCheck.Json.Reader

def isSpace (c : Char) : Bool := c = ' ' || c = '\n' || c = '\t' || c = '\r'

def skipSpace (cs : List Char) : List Char := cs.dropWhile isSpace

/-- A piece of a string: a character, or half of a surrogate pair. -/
inductive Piece where
  | char (c : Char)
  | half (unit : Nat)
  deriving DecidableEq, Repr

def pieceOfUnit (unit : Nat) : Piece :=
  if 0xD800 ≤ unit && unit < 0xE000 then .half unit else .char (Char.ofNat unit)

/-- The characters of pieces in reverse order; none when a half stands alone. -/
def joinPieces : List Piece → List Char → Option (List Char)
  | [], done => some done
  | .char c :: rest, done => joinPieces rest (c :: done)
  | .half low :: .half high :: rest, done =>
    if 0xDC00 ≤ low && high < 0xDC00 then
      joinPieces rest (Char.ofNat (0x10000 + (high - 0xD800) * 0x400 + (low - 0xDC00)) :: done)
    else none
  | .half _ :: _, _ => none

/-- The pieces up to the closing quote, the last one in front. -/
def readPieces : List Char → List Piece → Option (List Piece × List Char)
  | [], _ => none
  | '"' :: rest, done => some (done, rest)
  | '\\' :: rest, done =>
    match rest with
    | '"' :: rest => readPieces rest (.char '"' :: done)
    | '\\' :: rest => readPieces rest (.char '\\' :: done)
    | '/' :: rest => readPieces rest (.char '/' :: done)
    | 'b' :: rest => readPieces rest (.char '\x08' :: done)
    | 'f' :: rest => readPieces rest (.char '\x0c' :: done)
    | 'n' :: rest => readPieces rest (.char '\n' :: done)
    | 'r' :: rest => readPieces rest (.char '\r' :: done)
    | 't' :: rest => readPieces rest (.char '\t' :: done)
    | 'u' :: a :: b :: c :: d :: rest =>
      if [a, b, c, d].all Text.isHexDigit then
        let unit := [a, b, c, d].foldl (fun n c => n * 16 + Text.hexValue c) 0
        readPieces rest (pieceOfUnit unit :: done)
      else none
    | _ => none
  | c :: rest, done => if c.toNat < 0x20 then none else readPieces rest (.char c :: done)

/-- A string behind its opening quote; the first part is none when it stands for no text. -/
def readString (cs : List Char) : Option (Option String × List Char) :=
  (readPieces cs []).map fun (pieces, rest) => ((joinPieces pieces []).map String.ofList, rest)

def spanDigits (cs : List Char) : List Char × List Char := cs.span Char.isDigit

/-- A numeral at the front of a text. -/
def readNumeral (cs : List Char) : Option (Number.Numeral × List Char) := do
  let (negative, cs) := match cs with
    | '-' :: rest => (true, rest)
    | _ => (false, cs)
  let (digits, cs) := spanDigits cs
  match digits with
  | [] | '0' :: _ :: _ => none
  | _ =>
    let (fraction, cs) ← match cs with
      | '.' :: rest =>
        let (digits, rest) := spanDigits rest
        if digits.isEmpty then none else some (digits, rest)
      | _ => some ([], cs)
    match cs with
    | e :: rest =>
      if e = 'e' || e = 'E' then
        let (down, rest) := match rest with
          | '-' :: more => (true, more)
          | '+' :: more => (false, more)
          | _ => (false, rest)
        let (exponent, rest) := spanDigits rest
        if exponent.isEmpty then none
        else some (⟨negative, digits, fraction, some (down, exponent)⟩, rest)
      else some (⟨negative, digits, fraction, none⟩, cs)
    | [] => some (⟨negative, digits, fraction, none⟩, cs)

def numberTree (n : Number.Numeral) : Tree :=
  match n.value? with
  | some (.whole n) => .whole n
  | some (.real x) => .real x
  | none => .broken

def textTree : Option String → Tree
  | some s => .text s
  | none => .broken

/-- A record; under a key that is no text all of it stands for nothing. -/
def recordTree (members : List (Option String × Tree)) : Tree :=
  match members.mapM fun (key, value) => key.map (·, value) with
  | some members => .record members
  | none => .broken

mutual

/-- A value at the front of a text. -/
def readValue : Nat → List Char → Option (Tree × List Char)
  | 0, _ => none
  | fuel + 1, cs =>
    match skipSpace cs with
    | '"' :: rest => (readString rest).map fun (s, rest) => (textTree s, rest)
    | '[' :: rest =>
      match skipSpace rest with
      | ']' :: rest => some (.list [], rest)
      | rest => readItems fuel rest []
    | '\x7b' :: rest =>
      match skipSpace rest with
      | '\x7d' :: rest => some (.record [], rest)
      | rest => readMembers fuel rest []
    | 'n' :: 'u' :: 'l' :: 'l' :: rest => some (.null, rest)
    | 't' :: 'r' :: 'u' :: 'e' :: rest => some (.bool true, rest)
    | 'f' :: 'a' :: 'l' :: 's' :: 'e' :: rest => some (.bool false, rest)
    | rest => (readNumeral rest).map fun (n, rest) => (numberTree n, rest)

/-- The items of an array, up to its end; `done` holds those before, the last one in front. -/
def readItems : Nat → List Char → List Tree → Option (Tree × List Char)
  | 0, _, _ => none
  | fuel + 1, cs, done =>
    match readValue fuel cs with
    | none => none
    | some (item, rest) =>
      match skipSpace rest with
      | ',' :: rest => readItems fuel rest (item :: done)
      | ']' :: rest => some (.list (item :: done).reverse, rest)
      | _ => none

/-- The members of an object, up to its end. -/
def readMembers : Nat → List Char → List (Option String × Tree) → Option (Tree × List Char)
  | 0, _, _ => none
  | fuel + 1, cs, done =>
    match skipSpace cs with
    | '"' :: rest =>
      match readString rest with
      | none => none
      | some (key, rest) =>
        match skipSpace rest with
        | ':' :: rest =>
          match readValue fuel rest with
          | none => none
          | some (value, rest) =>
            match skipSpace rest with
            | ',' :: rest => readMembers fuel rest ((key, value) :: done)
            | '\x7d' :: rest => some (recordTree ((key, value) :: done).reverse, rest)
            | _ => none
        | _ => none
    | _ => none

end

/-- The tree of a JSON text. -/
def tree? (cs : List Char) : Option Tree :=
  match readValue (cs.length + 1) cs with
  | some (tree, rest) => if (skipSpace rest).isEmpty then some tree else none
  | none => none

/-- Containers may be nested this deep in a value. -/
def maxDepth : Nat := 127

mutual

/-- The value a tree stands for. -/
def valueOf? : Nat → Tree → Option Json
  | _, .null => some .null
  | _, .bool b => some (.bool b)
  | _, .whole n => some (.number (.whole n))
  | _, .real x => some (.number (.real x))
  | _, .text s => some (.string s)
  | _, .broken => none
  | 0, .list _ | 0, .record _ => none
  | depth + 1, .list items => (valuesOf? depth items).map .array
  | depth + 1, .record members => (membersOf? depth members).map ofMembers

def valuesOf? : Nat → List Tree → Option (List Json)
  | _, [] => some []
  | depth, item :: items => do
    let value ← valueOf? depth item
    let values ← valuesOf? depth items
    return value :: values

def membersOf? : Nat → List (String × Tree) → Option (List (String × Json))
  | _, [] => some []
  | depth, (key, item) :: members => do
    let value ← valueOf? depth item
    let values ← membersOf? depth members
    return (key, value) :: values

end

end Reader

/-- The value of a JSON text. -/
def read? (text : String) : Option Json :=
  (Reader.tree? text.toList).bind (Reader.valueOf? Reader.maxDepth)

end SelfCheck.Json
