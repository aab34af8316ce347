import SelfCheck.Proofs.Text.Blank
import SelfCheck.Proofs.Text.Utf8
import SelfCheck.Proofs.Traversal
import SelfCheck.Template.Bundled

/-! What gets into the text of a template.

A rendered text is made of the template's own texts, of strings in the model under the names that it
writes, and of numerals. So it has no carriage return unless one of those strings has one, and
whatever the template says outside of its sections is said.
-/

set_option autoImplicit false

namespace SelfCheck

open Text (Unbroken)

namespace Json

mutual

/-- The strings in a value; keys are not among them. -/
def strings : Json → List String
  | .string s => [s]
  | .array items => stringsOfItems items
  | .object members => stringsOfMembers members
  | .null | .bool _ | .number _ => []

def stringsOfItems : List Json → List String
  | [] => []
  | item :: items => item.strings ++ stringsOfItems items

def stringsOfMembers : List (String × Json) → List String
  | [] => []
  | (_, value) :: members => value.strings ++ stringsOfMembers members

end

/-- A value without a carriage return in any of its strings. -/
def Unbroken (value : Json) : Prop := ∀ s ∈ value.strings, Text.Unbroken s

theorem mem_stringsOfItems {s : String} {items : List Json} :
    s ∈ stringsOfItems items ↔ ∃ item ∈ items, s ∈ item.strings := by
  induction items with
  | nil => simp [stringsOfItems]
  | cons item items ih => simp [stringsOfItems, ih]

theorem Unbroken.item {items : List Json} (clean : (array items).Unbroken) {item : Json}
    (member : item ∈ items) : item.Unbroken := by
  intro s inside
  exact clean s (mem_stringsOfItems.mpr ⟨item, member, inside⟩)

theorem mem_stringsOfMembers {s : String} {members : List (String × Json)} :
    s ∈ stringsOfMembers members ↔ ∃ member ∈ members, s ∈ member.2.strings := by
  induction members with
  | nil => simp [stringsOfMembers]
  | cons member members ih => simp [stringsOfMembers, ih]

theorem mem_strings_of_member? {key : String} {value inner : Json}
    (found : value.member? key = some inner) {s : String} (member : s ∈ inner.strings) :
    s ∈ value.strings := by
  cases value with
  | object members =>
    obtain ⟨front, back, rfl, -⟩ := List.lookup_eq_some_iff.mp found
    exact mem_stringsOfMembers.mpr ⟨(key, inner), by simp, member⟩
  | _ => cases found

/-! Numerals. -/

namespace Number

/-- A character of numerals. -/
def isMark (c : Char) : Bool := c.isDigit || ['+', '-', '.', 'e'].contains c

theorem digitsOf_marks (n : Nat) : ∀ c ∈ digitsOf n, isMark c = true := by
  intro c member
  have digit : c.isDigit = true := Nat.isDigit_of_mem_toDigits (by decide) (by decide) member
  simp [isMark, digit]

theorem zeros_marks (n : Nat) : ∀ c ∈ zeros n, isMark c = true := by
  intro c member
  obtain rfl := List.eq_of_mem_replicate member
  decide

theorem exponentText_marks (exponent : Int) : ∀ c ∈ exponentText exponent, isMark c = true := by
  cases exponent <;>
    exact List.forall_mem_cons.mpr ⟨by decide, List.forall_mem_cons.mpr
      ⟨by decide, digitsOf_marks _⟩⟩

theorem decimalText_marks (d : Decimal) : ∀ c ∈ decimalText d, isMark c = true := by
  have digits := digitsOf_marks d.digits
  have point : isMark '.' = true := by decide
  have zero : isMark '0' = true := by decide
  unfold decimalText
  generalize digitsOf d.digits = ds at digits ⊢
  dsimp only
  -- The point stands behind the digits, among them or in front of them, or there is an exponent.
  split
  · simpa [or_imp, forall_and, point, zero] using ⟨digits, zeros_marks _⟩
  · split
    · intro c member
      rcases List.mem_append.mp member with front | behind
      · exact digits c (List.mem_of_mem_take front)
      · rcases List.mem_cons.mp behind with rfl | back
        · exact point
        · exact digits c (List.mem_of_mem_drop back)
    · split
      · simpa [or_imp, forall_and, point, zero] using ⟨zeros_marks _, digits⟩
      · split
        · simp
        · next first =>
          exact List.forall_mem_cons.mpr ⟨digits _ (by simp), exponentText_marks _⟩
        · next first rest _ =>
          have inner := List.forall_mem_cons.mp digits
          simpa [or_imp, forall_and, point] using ⟨inner.1, inner.2, exponentText_marks _⟩

theorem chars_marks (n : Number) : ∀ c ∈ n.chars, isMark c = true := by
  cases n with
  | whole n =>
    cases n with
    | ofNat n => exact digitsOf_marks n
    | negSucc n => exact List.forall_mem_cons.mpr ⟨by decide, digitsOf_marks _⟩
  | real x =>
    unfold chars realText
    have magnitude : ∀ c ∈ (if Decimal.isZero x then ['0', '.', '0']
        else decimalText (Decimal.shortest (.ofDouble x))), isMark c = true := by
      split
      · simp only [List.forall_mem_cons, List.not_mem_nil, false_imp_iff, implies_true, and_true]
        exact ⟨by decide, by decide, by decide⟩
      · exact decimalText_marks _
    dsimp only
    split
    · exact List.forall_mem_cons.mpr ⟨by decide, magnitude⟩
    · exact magnitude

theorem text_unbroken (n : Number) : Text.Unbroken n.text := by
  unfold Text.Unbroken text
  rw [String.toList_ofList]
  intro member
  exact absurd (chars_marks n _ member) (by decide)

end Number

end Json

namespace Template

/-! Looking up. -/

theorem lookupIn_strings {parts : List String} {scope value : Json}
    (found : lookupIn scope parts = some value) : ∀ s ∈ value.strings, s ∈ scope.strings := by
  unfold lookupIn at found
  induction parts generalizing scope with
  | nil =>
    cases found
    exact fun s member => member
  | cons part parts ih =>
    rw [List.foldlM_cons] at found
    obtain ⟨inner, first, rest⟩ := Option.bind_eq_some_iff.mp found
    intro s member
    exact Json.mem_strings_of_member? first (ih rest s member)

/-- A name for a member of a model, without dots. -/
def IsPlain (path : String) : Prop := '.' ∉ path.toList

instance (path : String) : Decidable (IsPlain path) := inferInstanceAs (Decidable (_ ∉ _))

theorem IsPlain.ne_dot {path : String} (plain : IsPlain path) : path ≠ "." := by
  rintro rfl
  exact plain (by decide)

theorem lookup_of_isPlain {path : String} (plain : IsPlain path) (model : Json) :
    lookup [model] path = model.member? path := by
  have parts : pathParts path = [path] := by
    rw [pathParts, Text.splitAt_of_not_mem plain, List.map_singleton, String.ofList_toList]
  simp [lookup, plain.ne_dot, parts, lookupIn]

variable {scopes : List Json} {path : String}

theorem lookup_strings {model value : Json} (found : lookup [model] path = some value) :
    ∀ s ∈ value.strings, s ∈ model.strings := by
  unfold lookup at found
  split at found
  · cases found
    exact fun s inside => inside
  · rw [List.findSome?_singleton] at found
    exact lookupIn_strings found

mutual

/-- The names whose values a node may write. In a section for each item the dot is an item. -/
def Node.writes : Node → List String
  | .text _ => []
  | .value path .. => [path]
  | .block _ false body => writesOf body
  | .block path true body => path :: (writesOf body).filter (· ≠ ".")

def writesOf : List Node → List String
  | [] => []
  | node :: nodes => node.writes ++ writesOf nodes

end

/-- The names whose values a template may write. -/
def writes (template : Template) : List String := writesOf template.nodes

/-- The strings of a model that a template may write. -/
def texts (template : Template) (model : Json) : List String :=
  template.writes.flatMap fun path => ((lookup [model] path).map Json.strings).getD []

theorem mem_texts {template : Template} {model : Json} {s : String} :
    s ∈ template.texts model ↔
      ∃ path ∈ template.writes, ∃ value, lookup [model] path = some value ∧ s ∈ value.strings := by
  unfold texts
  rw [List.mem_flatMap]
  refine exists_congr fun path => and_congr_right fun _ => ?_
  cases lookup [model] path <;> simp

theorem texts_subset {template : Template} {model : Json} :
    template.texts model ⊆ model.strings := by
  intro s inside
  obtain ⟨path, -, value, found, inside⟩ := mem_texts.mp inside
  exact lookup_strings found s inside

/-- Scopes in which some names have values without a carriage return. -/
def Clean (scopes : List Json) (paths : List String) : Prop :=
  ∀ path ∈ paths, ∀ value, lookup scopes path = some value → value.Unbroken

/-- What is found behind an item is found in it or further out. -/
theorem Clean.atItem {paths : List String} {item : Json} (clean : item.Unbroken)
    (outer : Clean scopes (paths.filter (· ≠ "."))) : Clean (item :: scopes) paths := by
  intro path member value found
  by_cases dot : path = "."
  · subst dot
    cases found
    exact clean
  · unfold lookup at found
    rw [if_neg dot, List.findSome?_cons] at found
    split at found
    · next inner =>
      cases found
      exact fun s inside => clean s (lookupIn_strings inner s inside)
    · refine outer path (List.mem_filter.mpr ⟨member, decide_eq_true dot⟩) value ?_
      rwa [lookup, if_neg dot]

/-! Values at their places. -/

theorem fit_unbroken (width : Option Nat) {s : String} (clean : Unbroken s) :
    Unbroken (fit width s) := by
  cases width with
  | none => exact clean
  | some width =>
    unfold fit Text.padEnd Unbroken
    simp only [String.toList_ofList, List.mem_append, List.mem_replicate]
    rintro (member | ⟨-, blank⟩)
    · exact clean (List.mem_of_mem_take member)
    · revert blank
      decide

theorem padStart_unbroken (width : Nat) {s : String} (clean : Unbroken s) :
    Unbroken (Text.padStart width '0' s) := by
  unfold Text.padStart Unbroken
  simp only [String.toList_ofList, List.mem_append, List.mem_replicate]
  rintro (⟨-, zero⟩ | member)
  · revert zero
    decide
  · exact clean member

theorem valueText_unbroken {path : String} {width : Option Nat} {digit : Bool} {value : Json}
    (clean : value.Unbroken) {text : String}
    (renders : valueText path width digit value = .ok text) : Unbroken text := by
  cases value with
  | string s =>
    cases renders
    exact fit_unbroken width (clean s (by simp [Json.strings]))
  | bool b =>
    cases renders
    apply fit_unbroken
    cases b <;> cases digit <;> decide
  | number n =>
    cases renders
    cases width with
    | none => exact n.text_unbroken
    | some width => exact padStart_unbroken width n.text_unbroken
  | _ => cases renders

/-! A template's own texts. -/

mutual

/-- The texts in a node, those inside of sections too. -/
def Node.texts : Node → List String
  | .text s => [s]
  | .value .. => []
  | .block _ _ body => textsOf body

def textsOf : List Node → List String
  | [] => []
  | node :: nodes => node.texts ++ textsOf nodes

end

/-- A template without a carriage return in its own texts. -/
def Unbroken (template : Template) : Prop := ∀ s ∈ textsOf template.nodes, Text.Unbroken s

theorem renderNodes_cons {node : Node} {nodes : List Node} {text : String}
    (renders : renderNodes scopes (node :: nodes) = .ok text) :
    ∃ front back, renderNode scopes node = .ok front ∧ renderNodes scopes nodes = .ok back ∧
      text = front ++ back := by
  rw [renderNodes] at renders
  split at renders
  · cases renders
  · next front first =>
    split at renders
    · cases renders
    · next back rest =>
      cases renders
      exact ⟨front, back, first, rest, rfl⟩

theorem join_unbroken {texts : List String} (clean : ∀ text ∈ texts, Text.Unbroken text) :
    Text.Unbroken (String.join texts) := by
  unfold Text.Unbroken
  rw [String.toList_join, List.mem_flatMap]
  rintro ⟨text, member, inside⟩
  exact clean text member inside

mutual

theorem renderNode_unbroken : (node : Node) → {scopes : List Json} → {text : String} →
    (∀ s ∈ node.texts, Text.Unbroken s) → Clean scopes node.writes →
    renderNode scopes node = .ok text → Text.Unbroken text
  | .text s, _, _, own, _, renders => by
    cases renders
    exact own s (by simp [Node.texts])
  | .value path width digit, _, _, _, clean, renders => by
    simp only [renderNode] at renders
    split at renders
    · next value found =>
      exact valueText_unbroken (clean path (List.mem_singleton_self _) value found) renders
    · cases renders
  | .block path false body, scopes, text, own, clean, renders => by
    simp only [renderNode, Bool.false_eq_true, if_false] at renders
    split at renders
    · exact renderNodes_unbroken body own clean renders
    · cases renders
      exact Text.unbroken_empty
  | .block path true body, scopes, text, own, clean, renders => by
    simp only [renderNode, if_true] at renders
    split at renders
    · split at renders
      · next items found =>
        obtain ⟨whole, outer⟩ := List.forall_mem_cons.mp clean
        cases made : items.mapM fun item => renderNodes (item :: scopes) body with
        | error fault =>
          rw [made] at renders
          cases renders
        | ok texts =>
          rw [made] at renders
          cases renders
          apply join_unbroken
          -- The item is one more scope for its piece, and clean as a part of what was looked up.
          intro piece member
          obtain ⟨item, inside, renders⟩ := mem_of_mapM_eq_ok made member
          exact renderNodes_unbroken body own (.atItem ((whole _ found).item inside) outer) renders
      · cases renders
    · cases renders
      exact Text.unbroken_empty

theorem renderNodes_unbroken : (nodes : List Node) → {scopes : List Json} → {text : String} →
    (∀ s ∈ textsOf nodes, Text.Unbroken s) → Clean scopes (writesOf nodes) →
    renderNodes scopes nodes = .ok text → Text.Unbroken text
  | [], _, _, _, _, renders => by
    cases renders
    exact Text.unbroken_empty
  | node :: nodes, scopes, text, own, clean, renders => by
    obtain ⟨ownFront, ownBack⟩ := List.forall_mem_append.mp own
    obtain ⟨cleanFront, cleanBack⟩ := List.forall_mem_append.mp clean
    obtain ⟨front, back, rendersFront, rendersBack, rfl⟩ := renderNodes_cons renders
    exact Text.unbroken_append.mpr
      ⟨renderNode_unbroken node ownFront cleanFront rendersFront,
        renderNodes_unbroken nodes ownBack cleanBack rendersBack⟩

end

/-- What is rendered has no carriage return, if there is none in what the template may write. -/
theorem render_unbroken {template : Template} (own : template.Unbroken) {model : Json}
    (clean : ∀ s ∈ template.texts model, Text.Unbroken s) {text : String}
    (renders : template.render model = .ok text) : Text.Unbroken text := by
  refine renderNodes_unbroken template.nodes own ?_ renders
  intro path member value found s inside
  exact clean s (mem_texts.mpr ⟨path, member, value, found, inside⟩)

/-! What is said outside of sections is said in any case. -/

/-- Whether a template says a letter or a digit outside of its sections. -/
def isSigned (template : Template) : Bool :=
  template.nodes.any fun
    | .text s => s.toList.any Char.isAlphanum
    | _ => false

theorem mem_renderNodes {nodes : List Node} {text s : String}
    (renders : renderNodes scopes nodes = .ok text) (member : .text s ∈ nodes) :
    ∀ c ∈ s.toList, c ∈ text.toList := by
  induction nodes generalizing text with
  | nil => cases member
  | cons node nodes ih =>
    -- A node that renders takes nothing away from what the others say.
    obtain ⟨front, back, first, rest, rfl⟩ := renderNodes_cons renders
    intro c inside
    rw [String.toList_append, List.mem_append]
    rcases List.mem_cons.mp member with rfl | member
    · cases first
      exact .inl inside
    · exact .inr (ih rest member c inside)

theorem render_signed {template : Template} (signed : template.isSigned = true) {model : Json}
    {text : String} (renders : template.render model = .ok text) :
    ∃ c ∈ text.toList, c.isAlphanum = true := by
  obtain ⟨node, member, signs⟩ := List.any_eq_true.mp signed
  split at signs
  · next s =>
    obtain ⟨c, inside, sign⟩ := List.any_eq_true.mp signs
    exact ⟨c, mem_renderNodes renders member c inside, sign⟩
  · cases signs

end Template

namespace Templates

/-- The bundled templates hold no carriage return, and none of them may say nothing. -/
theorem bundledTemplate?_texts {command : Command} {template : Template}
    (found : bundledTemplate? command = some template) :
    template.Unbroken ∧ template.isSigned = true := by
  cases command <;> cases found <;> exact ⟨by unfold Template.Unbroken; decide, by decide⟩

theorem failureTemplate_texts :
    failureTemplate.Unbroken ∧ failureTemplate.isSigned = true :=
  ⟨by unfold Template.Unbroken; decide, by decide⟩

/-- The strings of a model that the bundled answer to a command may write. -/
def bundledTexts (command : Command) (model : Json) : List String :=
  ((bundledTemplate? command).map (·.texts model)).getD []

theorem bundledTexts_subset (command : Command) (model : Json) :
    bundledTexts command model ⊆ model.strings := by
  unfold bundledTexts
  cases bundledTemplate? command with
  | none => simp
  | some template => exact Template.texts_subset

theorem render_bundled {command : Command} {model : Json} {text : String}
    (renders : bundled.render command model = .ok text) :
    ((∀ s ∈ bundledTexts command model, Text.Unbroken s) → Text.Unbroken text) ∧
      ∃ c ∈ text.toList, c.isAlphanum = true := by
  unfold render at renders
  rw [template?_bundled] at renders
  unfold bundledTexts
  cases found : bundledTemplate? command with
  | none =>
    rw [found] at renders
    cases renders
  | some template =>
    rw [found] at renders
    obtain ⟨own, signed⟩ := bundledTemplate?_texts found
    exact ⟨fun clean => Template.render_unbroken own clean renders,
      Template.render_signed signed renders⟩

theorem responseCode?_unbroken {command : Command} {code : String}
    (answers : command.responseCode? = some code) : Text.Unbroken code := by
  cases command <;> cases answers <;> decide

theorem answerCode_unbroken (command : Option Command) {requestCode : String}
    (clean : Text.Unbroken requestCode) : Text.Unbroken (answerCode command requestCode) := by
  unfold answerCode
  cases answers : command.bind Command.responseCode? with
  | none => exact clean
  | some code =>
    obtain ⟨command, -, answers⟩ := Option.bind_eq_some_iff.mp answers
    exact responseCode?_unbroken answers

theorem renderFailure_bundled {command : Option Command} {requestCode message text : String}
    (renders : bundled.renderFailure command requestCode message = .ok text) :
    (Text.Unbroken requestCode → Text.Unbroken message → Text.Unbroken text) ∧
      ∃ c ∈ text.toList, c.isAlphanum = true := by
  obtain ⟨own, signed⟩ := failureTemplate_texts
  refine ⟨fun code clean => Template.render_unbroken own (fun s inside => ?_) renders,
    Template.render_signed signed renders⟩
  have whole : s ∈ [answerCode command requestCode, message] := Template.texts_subset inside
  simp only [List.mem_cons, List.not_mem_nil, or_false] at whole
  rcases whole with rfl | rfl
  · exact answerCode_unbroken command code
  · exact clean

/-- A bundled template begins with the code of the command's answer. -/
theorem bundledTemplate?_head {command : Command} {template : Template}
    (found : bundledTemplate? command = some template) :
    ∃ code rest, command.responseCode? = some code ∧ template.nodes = .text code :: rest := by
  cases command <;> cases found <;> exact ⟨_, _, rfl, rfl⟩

theorem render_bundled_head {command : Command} {model : Json} {text : String}
    (renders : bundled.render command model = .ok text) :
    ∃ code back, command.responseCode? = some code ∧ text = code ++ back := by
  unfold render at renders
  rw [template?_bundled] at renders
  cases found : bundledTemplate? command with
  | none =>
    rw [found] at renders
    cases renders
  | some template =>
    rw [found] at renders
    obtain ⟨code, rest, answers, nodes⟩ := bundledTemplate?_head found
    have renders : Template.renderNodes [model] template.nodes = .ok text := renders
    rw [nodes] at renders
    obtain ⟨front, back, first, -, rfl⟩ := Template.renderNodes_cons renders
    cases first
    exact ⟨code, back, answers, rfl⟩

theorem renderFailure_bundled_eq (command : Option Command) (requestCode message : String) :
    bundled.renderFailure command requestCode message =
      .ok (answerCode command requestCode ++ ("AF" ++ (message ++ "|"))) := by
  have first : Template.lookup [failureModel (answerCode command requestCode) message] "code" =
      some (.string (answerCode command requestCode)) := rfl
  have second : Template.lookup [failureModel (answerCode command requestCode) message] "message" =
      some (.string message) := rfl
  simp [renderFailure, bundled, failureTemplate, place, Template.render, Template.renderNodes,
    Template.renderNode, first, second, Template.valueText, Template.fit]

end Templates

end SelfCheck
