import SelfCheck.Template

/-! Reading the source of a template.

Tags stand in double braces. A question mark or an asterisk in front opens a section, a slash
closes it, and a hash sign asks for digits; a width stands behind the last colon.
-/

set_option autoImplicit false

namespace SelfCheck.Template

def openMark : List Char := ['\x7b', '\x7b']

def closeMark : List Char := ['\x7d', '\x7d']

/-- An open section: its path, whether it repeats, and the nodes before it, the last in front. -/
structure Open where
  path : String
  each : Bool
  before : List Node
  deriving Repr, Inhabited

/-- What has been read: the open sections, the innermost in front, and the nodes inside that, the
last in front. -/
structure Progress where
  opened : List Open
  nodes : List Node
  deriving Repr, Inhabited

def trimmed (cs : List Char) : String := String.ofList (Text.trimChars cs)

/-- A place for a value. -/
def placeholder (cs : List Char) : Except Fault Node :=
  let (digit, cs) := match cs with
    | '#' :: rest => (true, Text.trimChars rest)
    | _ => (false, cs)
  match Text.cutAtLast? ':' cs with
  | some (path, width) =>
    match Text.readBounded? Text.maxWord (Text.trimChars width) with
    | none => .error (.badWidth (String.ofList cs))
    | some width =>
      if (Text.trimChars path).isEmpty then .error .emptyPlaceholder
      else .ok (.value (trimmed path) (some width) digit)
  | none => if cs.isEmpty then .error .emptyPlaceholder else .ok (.value (String.ofList cs) none digit)

/-- Take one tag, without space around it, into account. -/
def Progress.tag (progress : Progress) (tag : List Char) : Except Fault Progress :=
  match tag with
  | '?' :: path => .ok ⟨⟨trimmed path, false, progress.nodes⟩ :: progress.opened, []⟩
  | '*' :: path => .ok ⟨⟨trimmed path, true, progress.nodes⟩ :: progress.opened, []⟩
  | '/' :: path =>
    match progress.opened with
    | [] => .error (.unopened (String.ofList path))
    | inner :: outer =>
      if inner.path = trimmed path then
        .ok ⟨outer, .block inner.path inner.each progress.nodes.reverse :: inner.before⟩
      else .error (.mismatched inner.path (String.ofList path))
  | _ => (placeholder tag).map fun node => ⟨progress.opened, node :: progress.nodes⟩

def Progress.text (progress : Progress) (cs : List Char) : Progress :=
  if cs.isEmpty then progress else { progress with nodes := .text (String.ofList cs) :: progress.nodes }

/-- All nodes, once the source is at its end. -/
def Progress.finish (progress : Progress) (rest : List Char) : Except Fault Template :=
  match progress.opened with
  | inner :: _ => .error (.unclosed inner.path)
  | [] => .ok ⟨(progress.text rest).nodes.reverse⟩

theorem length_after_lt {mark cs before after : List Char} (marked : mark ≠ [])
    (found : Text.cutAt? mark cs = some (before, after)) : after.length < cs.length := by
  have parts := congrArg List.length (Text.cutAt?_append found)
  have := List.length_pos_iff.2 marked
  simp only [List.length_append] at parts
  omega

def scan (cs : List Char) (progress : Progress) : Except Fault Template :=
  match _opening : Text.cutAt? openMark cs with
  | none => progress.finish cs
  | some (before, inside) =>
    match _closing : Text.cutAt? closeMark inside with
    | none => .error .unterminatedTag
    | some (tag, rest) =>
      match (progress.text before).tag (Text.trimChars tag) with
      | .error fault => .error fault
      | .ok progress => scan rest progress
termination_by cs.length
decreasing_by
  have outer := length_after_lt (by simp [openMark]) _opening
  have inner := length_after_lt (by simp [closeMark]) _closing
  omega

/-- The template of a source text. -/
def read (source : String) : Except Fault Template := scan source.toList ⟨[], []⟩

end SelfCheck.Template
