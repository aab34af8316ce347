import SelfCheck.Proofs.Traversal
import SelfCheck.Template.Bundled

/-! What a template asks a model for.

Some names are written in any case, some when they are there, and some once for each item of an
array. A template that writes no other names than these, those of the sections around and items,
is rendered for every model that has the first, and has none of them as something else than a
scalar or an array of scalars.
-/

set_option autoImplicit false

namespace SelfCheck

namespace Json

/-- Strings, numbers and truth can be written. -/
def isScalar : Json → Bool
  | .string _ | .number _ | .bool _ => true
  | _ => false

/-- An array of what can be written. -/
def isRow : Json → Bool
  | .array items => items.all isScalar
  | _ => false

end Json

namespace Template

/-- The names that a template asks a model for. -/
structure Names where
  /-- Written outside of all sections. -/
  required : List String
  /-- The names of sections that are rendered once. -/
  optional : List String
  /-- The names of sections that are rendered for each item. -/
  repeated : List String

mutual

/-- The names of the sections in a node that are rendered for each item, or of those that are
rendered once. -/
def Node.sections (each : Bool) : Node → List String
  | .text _ | .value .. => []
  | .block path repeats body =>
    if repeats = each then path :: sectionsOf each body else sectionsOf each body

def sectionsOf (each : Bool) : List Node → List String
  | [] => []
  | node :: nodes => node.sections each ++ sectionsOf each nodes

end

def names (template : Template) : Names where
  required := template.nodes.filterMap fun
    | .value path .. => some path
    | _ => none
  optional := sectionsOf false template.nodes
  repeated := sectionsOf true template.nodes

mutual

/-- Whether a node writes nothing but what is known to be there. -/
def Node.isClosed (names : Names) (known : List String) : Node → Bool
  | .text _ => true
  | .value path .. => known.contains path
  | .block path false body => names.optional.contains path && areClosed names (path :: known) body
  | .block path true body => names.repeated.contains path && areClosed names ("." :: known) body

def areClosed (names : Names) (known : List String) : List Node → Bool
  | [] => true
  | node :: nodes => node.isClosed names known && areClosed names known nodes

end

/-- Whether a template writes nothing but what it asks for. -/
def isClosed (template : Template) : Bool :=
  areClosed template.names template.names.required template.nodes

/-- Scopes with what can be written, under the names that are known to be there and the others. -/
structure Provides (scopes : List Json) (names : Names) (known : List String) : Prop where
  known : ∀ path ∈ known, ∃ value, lookup scopes path = some value ∧ value.isScalar = true
  optional : ∀ path ∈ names.optional, ∀ value, lookup scopes path = some value →
    value.isScalar = true
  repeated : ∀ path ∈ names.repeated, path ≠ "." ∧ ∀ value, lookup scopes path = some value →
    value.isRow = true

variable {scopes : List Json} {names : Names} {known : List String} {path : String}
  {value item : Json}

/-! Looking up behind an item. -/

theorem pathParts_ne_nil (path : String) : pathParts path ≠ [] := by
  unfold pathParts Text.splitAt
  split
  · simp
  · split
    · simp
    · split <;> simp

theorem lookupIn_of_isScalar (scalar : item.isScalar = true) (path : String) :
    lookupIn item (pathParts path) = none := by
  cases parts : pathParts path with
  | nil => exact (pathParts_ne_nil path parts).elim
  | cons part parts =>
    rw [lookupIn, List.foldlM_cons]
    cases item with
    | string s => rfl
    | number n => rfl
    | bool b => rfl
    | _ => cases scalar

/-- A scalar is there for the dot, and hides no name. -/
theorem lookup_cons_of_isScalar (scalar : item.isScalar = true) (path : String) :
    lookup (item :: scopes) path = if path = "." then some item else lookup scopes path := by
  unfold lookup
  split
  · rfl
  · rw [List.findSome?_cons, lookupIn_of_isScalar scalar]

namespace Provides

theorem inSection (provides : Provides scopes names known) (named : path ∈ names.optional)
    (found : lookup scopes path = some value) : Provides scopes names (path :: known) where
  known := List.forall_mem_cons.mpr
    ⟨⟨value, found, provides.optional path named value found⟩, provides.known⟩
  optional := provides.optional
  repeated := provides.repeated

theorem atItem (provides : Provides scopes names known) (scalar : item.isScalar = true) :
    Provides (item :: scopes) names ("." :: known) where
  known := by
    refine List.forall_mem_cons.mpr ⟨⟨item, rfl, scalar⟩, fun path member => ?_⟩
    rw [lookup_cons_of_isScalar scalar]
    split
    · exact ⟨item, rfl, scalar⟩
    · exact provides.known path member
  optional := by
    intro path member value found
    rw [lookup_cons_of_isScalar scalar] at found
    split at found
    · cases found
      exact scalar
    · exact provides.optional path member value found
  repeated := by
    intro path member
    obtain ⟨named, row⟩ := provides.repeated path member
    refine ⟨named, fun value found => row value ?_⟩
    rwa [lookup_cons_of_isScalar scalar, if_neg named] at found

end Provides

/-! Rendering. -/

theorem valueText_of_isScalar (scalar : value.isScalar = true) (path : String)
    (width : Option Nat) (digit : Bool) : ∃ text, valueText path width digit value = .ok text := by
  cases value with
  | string s => exact ⟨_, rfl⟩
  | number n => exact ⟨_, rfl⟩
  | bool b => exact ⟨_, rfl⟩
  | _ => cases scalar

mutual

theorem renderNode_total : (node : Node) → {scopes : List Json} → {known : List String} →
    Provides scopes names known → node.isClosed names known = true →
    ∃ text, renderNode scopes node = .ok text
  | .text s, _, _, _, _ => ⟨s, rfl⟩
  | .value path width digit, _, _, provides, closed => by
    obtain ⟨value, found, scalar⟩ := provides.known path (List.contains_iff_mem.mp closed)
    rw [renderNode, found]
    exact valueText_of_isScalar scalar path width digit
  | .block path false body, scopes, _, provides, closed => by
    obtain ⟨member, closed⟩ := Bool.and_eq_true_iff.mp closed
    rw [renderNode]
    cases found : lookup scopes path with
    | none => exact ⟨"", rfl⟩
    | some value =>
      split
      · exact renderNodes_total body
          (provides.inSection (List.contains_iff_mem.mp member) found) closed
      · exact ⟨"", rfl⟩
  | .block path true body, scopes, _, provides, closed => by
    obtain ⟨member, closed⟩ := Bool.and_eq_true_iff.mp closed
    obtain ⟨-, row⟩ := provides.repeated path (List.contains_iff_mem.mp member)
    rw [renderNode]
    cases found : lookup scopes path with
    | none => exact ⟨"", rfl⟩
    | some value =>
      cases value with
      | array items =>
        have scalars := List.all_eq_true.mp (row _ found)
        dsimp only
        split
        · obtain ⟨texts, made⟩ := mapM_total fun item inside =>
            renderNodes_total body (provides.atItem (scalars item inside)) closed
          rw [if_pos rfl, made]
          exact ⟨_, rfl⟩
        · exact ⟨"", rfl⟩
      | _ => cases row _ found

theorem renderNodes_total : (nodes : List Node) → {scopes : List Json} → {known : List String} →
    Provides scopes names known → areClosed names known nodes = true →
    ∃ text, renderNodes scopes nodes = .ok text
  | [], _, _, _, _ => ⟨"", rfl⟩
  | node :: nodes, _, _, provides, closed => by
    obtain ⟨first, rest⟩ := Bool.and_eq_true_iff.mp closed
    obtain ⟨front, rendersFront⟩ := renderNode_total node provides first
    obtain ⟨back, rendersBack⟩ := renderNodes_total nodes provides rest
    exact ⟨front ++ back, by rw [renderNodes, rendersFront, rendersBack]⟩

end

/-- A closed template is rendered for every model that provides what it asks for. -/
theorem render_total {template : Template} (closed : template.isClosed = true) {model : Json}
    (provides : Provides [model] template.names template.names.required) :
    ∃ text, template.render model = .ok text :=
  renderNodes_total template.nodes provides closed

end Template

end SelfCheck
