import SelfCheck.Toml.Quoted
import SelfCheck.Toml.Scalar
import SelfCheck.Toml.Table
import SelfCheck.Tree.Fields

/-! Reading TOML documents. -/

set_option autoImplicit false

namespace SelfCheck.Toml

def skipWhite (cs : List Char) : List Char := cs.dropWhile isWhite

/-- What stands behind a comment, if there is one at the front. -/
def skipComment? : List Char → Option (List Char)
  | '#' :: rest =>
    let after := rest.dropWhile isPlain
    if after.isEmpty || (newline? after).isSome then some after else none
  | cs => some cs

/-- The rest of a line on which nothing more is said. -/
def endLine? (cs : List Char) : Option (List Char) := do
  let rest ← skipComment? (skipWhite cs)
  if rest.isEmpty then some [] else newline? rest

/-- What stands behind white space, comments and ends of lines. -/
def skipBlank : Nat → List Char → Option (List Char)
  | 0, _ => none
  | fuel + 1, cs =>
    match skipComment? (skipWhite cs) with
    | none => none
    | some rest =>
      match newline? rest with
      | some rest => skipBlank fuel rest
      | none => some rest

/-! Keys. -/

def isBare (c : Char) : Bool := c.isAlphanum || c = '_' || c = '-'

def simpleKey? (cs : List Char) : Option (String × List Char) :=
  match cs with
  | '"' :: _ | '\'' :: _ => shortString? cs
  | _ =>
    let (key, rest) := cs.span isBare
    if key.isEmpty then none else some (String.ofList key, rest)

/-- The parts of a key, up to `room` of them: the way to the table, and the last part. -/
def keyParts? : (room : Nat) → List Char → List String → Option (List String × String × List Char)
  | 0, _, _ => none
  | room + 1, cs, path => do
    let (part, rest) ← simpleKey? (skipWhite cs)
    match skipWhite rest with
    | '.' :: rest => keyParts? room rest (part :: path)
    | rest => some (path.reverse, part, rest)

/-- Arrays and tables in braces may be nested this deep, and a key may have as many parts. -/
def maxDepth : Nat := 80

/-- A key with dots, and white space around it. -/
def key? (cs : List Char) : Option (List String × String × List Char) := keyParts? maxDepth cs []

/-! Values. -/

def isWordChar (c : Char) : Bool := isPlain c && !" \t=,[]\x7b\x7d\x27\"#".toList.contains c

/-- The word at the front; a date takes a time with it that stands behind one blank. -/
def word (cs : List Char) : List Char × List Char :=
  let (front, rest) := cs.span isWordChar
  match rest with
  | ' ' :: d :: _ =>
    if d.isDigit && isDateWord front then
      let (time, rest) := (rest.drop 1).span isWordChar
      (front ++ ' ' :: time, rest)
    else (front, rest)
  | _ => (front, rest)

mutual

/-- A value at the front; `depth` counts how much deeper values may be nested. -/
def value? : Nat → Nat → List Char → Option (Tree × List Char)
  | 0, _, _ => none
  | fuel + 1, depth, cs =>
    match cs with
    | '"' :: _ | '\'' :: _ => (string? cs).map fun (s, rest) => (.text s, rest)
    | '[' :: rest => if depth = 0 then none else items? fuel (depth - 1) rest []
    | '\x7b' :: rest => if depth = 0 then none else members? fuel (depth - 1) rest []
    | _ =>
      let (front, rest) := word cs
      (scalar? front).map (·, rest)

/-- The items of an array, up to its end. -/
def items? : Nat → Nat → List Char → List Tree → Option (Tree × List Char)
  | 0, _, _, _ => none
  | fuel + 1, depth, cs, done =>
    match skipBlank (cs.length + 1) cs with
    | none => none
    | some (']' :: rest) => some (.list done.reverse, rest)
    | some rest =>
      match value? fuel depth rest with
      | none => none
      | some (item, rest) =>
        match skipBlank (rest.length + 1) rest with
        | some (',' :: rest) => items? fuel depth rest (item :: done)
        | some (']' :: rest) => some (.list (item :: done).reverse, rest)
        | _ => none

/-- The members of a table in braces, up to its end. -/
def members? : Nat → Nat → List Char → Members → Option (Tree × List Char)
  | 0, _, _, _ => none
  | fuel + 1, depth, cs, done =>
    match skipBlank (cs.length + 1) cs with
    | none => none
    | some ('\x7d' :: rest) => some (done.tree, rest)
    | some rest =>
      match key? rest with
      | some (path, key, '=' :: rest) =>
        match value? fuel depth (skipWhite rest) with
        | none => none
        | some (value, rest) =>
          match bind? none path key value done with
          | none => none
          | some done =>
            match skipBlank (rest.length + 1) rest with
            | some (',' :: rest) => members? fuel depth rest done
            | some ('\x7d' :: rest) => some (done.tree, rest)
            | _ => none
      | _ => none

end

/-! Documents. -/

/-- A document as far as it has been read: all its members, and the way to the table of the last
header. -/
structure Progress where
  members : Members := []
  header : List String := []

/-- A header behind its opening brackets. -/
def header? (each : Bool) (cs : List Char) (progress : Progress) :
    Option (Progress × List Char) := do
  let (path, key, rest) ← key? cs
  let rest ← match each, rest with
    | true, ']' :: ']' :: rest => some rest
    | false, ']' :: rest => some rest
    | _, _ => none
  let members ← under? (if each then beginItem? key else beginTable? key) path progress.members
  let rest ← endLine? rest
  return ({ members, header := path ++ [key] }, rest)

/-- A key and its value. -/
def binding? (cs : List Char) (progress : Progress) : Option (Progress × List Char) := do
  let (path, key, rest) ← key? cs
  let '=' :: rest := rest | none
  let (value, rest) ← value? (rest.length + 1) maxDepth (skipWhite rest)
  let members ← under? (bind? none path key value) progress.header progress.members
  let rest ← endLine? rest
  return ({ progress with members }, rest)

def document? : Nat → List Char → Progress → Option Members
  | 0, _, _ => none
  | fuel + 1, cs, progress => do
    let rest ← skipBlank (cs.length + 1) cs
    match rest with
    | [] => some progress.members
    | '[' :: '[' :: rest =>
      let (progress, rest) ← header? true rest progress
      document? fuel rest progress
    | '[' :: rest =>
      let (progress, rest) ← header? false rest progress
      document? fuel rest progress
    | _ =>
      let (progress, rest) ← binding? rest progress
      document? fuel rest progress

/-- A byte order mark may stand in front. -/
def withoutMark (cs : List Char) : List Char :=
  match cs with
  | c :: rest => if c.toNat = 0xFEFF then rest else cs
  | [] => []

/-- The tree of a TOML document. -/
def tree? (text : String) : Option Tree :=
  let cs := withoutMark text.toList
  (document? (cs.length + 1) cs {}).map Members.tree

end SelfCheck.Toml
