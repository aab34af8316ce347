import SelfCheck.Command
import SelfCheck.Json.Number
import SelfCheck.Text.Quoted

/-! Templates of answer bodies, and rendering them with a model.

A template is text with places for the values of a model. A place may have a width: numbers are
filled up with leading zeros, texts are cut or filled up with blanks. A section is rendered when
its value is there and not empty, or once for each item of an array. A name is looked up in the
innermost scope that has it.
-/

set_option autoImplicit false

namespace SelfCheck

inductive Template.Node where
  | text (s : String)
  /-- With `digit`, truth is written as a digit and not as a letter. -/
  | value (path : String) (width : Option Nat) (digit : Bool)
  /-- With `each`, once for each item of the array at `path`. -/
  | block (path : String) (each : Bool) (body : List Template.Node)
  deriving Repr, Inhabited

structure Template where
  nodes : List Template.Node
  deriving Repr, Inhabited

/-- What can be wrong with the source of a template. -/
inductive Template.Fault where
  | unterminatedTag
  | unopened (path : String)
  | mismatched (opened closing : String)
  | badWidth (tag : String)
  | emptyPlaceholder
  | unclosed (path : String)
  deriving DecidableEq, Repr

def Template.Fault.message : Template.Fault → String
  | unterminatedTag => "unterminated tag"
  | unopened path => "closing " ++ Text.quoted path ++ " without an open section"
  | mismatched opened closing =>
    "section " ++ Text.quoted opened ++ " closed by " ++ Text.quoted closing
  | badWidth tag => "invalid width in " ++ Text.quoted tag
  | emptyPlaceholder => "empty placeholder"
  | unclosed path => "section " ++ Text.quoted path ++ " is never closed"

inductive RenderError where
  | noTemplate (command : Command)
  | template (name : String) (fault : Template.Fault)
  | missingValue (path : String)
  | unsupportedValue (path : String)
  deriving DecidableEq, Repr

def RenderError.message : RenderError → String
  | noTemplate command => "no template registered for " ++ command.name
  | template name fault => "template " ++ name ++ ": " ++ fault.message
  | missingValue path => "model has no value for " ++ Text.quoted path
  | unsupportedValue path =>
    "model value for " ++ Text.quoted path ++ " cannot be rendered as text"

namespace Template

/-- The names of a dotted path. -/
def pathParts (path : String) : List String :=
  (Text.splitAt '.' path.toList).map String.ofList

/-- The value at a path inside one scope. -/
def lookupIn (scope : Json) (parts : List String) : Option Json :=
  parts.foldlM (fun value part => value.member? part) scope

/-- The value a path means; the innermost scope is in front, and a dot is that scope itself. -/
def lookup (scopes : List Json) (path : String) : Option Json :=
  if path = "." then scopes.head?
  else scopes.findSome? fun scope => lookupIn scope (pathParts path)

/-- Whether a section with this value is rendered. -/
def isTruthy : Option Json → Bool
  | none | some .null | some (.bool false) => false
  | some (.string s) => s ≠ ""
  | some (.array items) => !items.isEmpty
  | some _ => true

/-- A text cut or filled up to a width. -/
def fit (width : Option Nat) (s : String) : String :=
  match width with
  | some w => Text.padEnd w (String.ofList (s.toList.take w))
  | none => s

def truthText (digit b : Bool) : String :=
  match b, digit with
  | true, true => "1"
  | false, true => "0"
  | true, false => "Y"
  | false, false => "N"

/-- The text of a value at its place. -/
def valueText (path : String) (width : Option Nat) (digit : Bool) :
    Json → Except RenderError String
  | .string s => .ok (fit width s)
  | .bool b => .ok (fit width (truthText digit b))
  | .number n => .ok (match width with
    | some w => Text.padStart w '0' n.text
    | none => n.text)
  | .null => .error (.missingValue path)
  | .array _ | .object _ => .error (.unsupportedValue path)

mutual

def renderNode (scopes : List Json) : Node → Except RenderError String
  | .text s => .ok s
  | .value path width digit =>
    match lookup scopes path with
    | some value => valueText path width digit value
    | none => .error (.missingValue path)
  | .block path each body =>
    let value := lookup scopes path
    if isTruthy value then
      if each then
        match value with
        | some (.array items) =>
          (items.mapM fun item => renderNodes (item :: scopes) body).map String.join
        | _ => .error (.unsupportedValue path)
      else renderNodes scopes body
    else .ok ""

def renderNodes (scopes : List Json) : List Node → Except RenderError String
  | [] => .ok ""
  | node :: nodes =>
    match renderNode scopes node with
    | .error e => .error e
    | .ok front =>
      match renderNodes scopes nodes with
      | .error e => .error e
      | .ok back => .ok (front ++ back)

end

/-- The text of a template for a model. -/
def render (template : Template) (model : Json) : Except RenderError String :=
  renderNodes [model] template.nodes

end Template

end SelfCheck
