import SelfCheck.Proofs.Answer
import SelfCheck.Proofs.Template.Names
import SelfCheck.Session

/-! Every answer to a business request can be rendered.

What the answer says before the platform has its say covers all that the bundled template writes in
any case. So whatever the platform says in scalars, and in arrays of them where the template goes
through the items, the body is there and begins with the code of the answer.
-/

set_option autoImplicit false

namespace SelfCheck

namespace Sorted

variable {κ α : Type} [DecidableEq κ] [LT κ] [DecidableLT κ] {key : κ} {value : α}
  {bindings : List (κ × α)}

theorem isSome_lookup_putAll {more : List (κ × α)}
    (named : (bindings.lookup key).isSome = true ∨ key ∈ more.map (·.1)) :
    ((putAll bindings more).lookup key).isSome = true := by
  unfold putAll
  induction more generalizing bindings with
  | nil => exact named.resolve_right (by simp)
  | cons head more ih =>
    obtain ⟨k, v⟩ := head
    apply ih
    by_cases here : key = k
    · exact .inl (by rw [here, lookup_put_self, Option.isSome_some])
    · refine named.imp (fun before => ?_) fun later => ?_
      · rwa [lookup_put_of_ne here]
      · simpa [here] using later

/-- What is bound in a list stays bound, to something that it was bound to. -/
theorem exists_lookup_ofList (named : key ∈ bindings.map (·.1)) :
    ∃ value, (ofList bindings).lookup key = some value :=
  Option.isSome_iff_exists.mp (isSome_lookup_putAll (.inr named))

end Sorted

namespace Template

namespace Names

/-- All names that a template asks a model for. -/
def all (names : Names) : List String := names.required ++ names.optional ++ names.repeated

/-- A binding that can be written as the template wants it, if it wants it at all. -/
def Takes (names : Names) (binding : String × Json) : Prop :=
  if binding.1 ∈ names.repeated then binding.2.isRow = true
  else binding.1 ∈ names.all → binding.2.isScalar = true

instance (names : Names) (binding : String × Json) : Decidable (names.Takes binding) :=
  inferInstanceAs (Decidable (if binding.1 ∈ names.repeated then binding.2.isRow = true
    else (binding.1 ∈ names.all → binding.2.isScalar = true)))

end Names

end Template

namespace Answer

open Template (Names)

/-- The names that the template of a command's answer asks for. -/
def asked (command : Command) : Names :=
  match Templates.bundledTemplate? command with
  | some template => template.names
  | none => ⟨[], [], []⟩

/-- A platform's answer that can be written: what the template goes through is an array of scalars,
and what it asks for otherwise is a scalar. -/
def Writable (command : Command) : Json → Prop
  | .object members => ∀ binding ∈ members, (asked command).Takes binding
  | _ => True

/-- What the answer to a request that names a patron and an item says in any case. -/
def standardNames (command : Command) : List String :=
  ["ok", "transaction_date", "institution_id", "language", "patron_status", "personal_name",
    "title_identifier", "due_date", "permanent_location", "patron_identifier",
    "item_identifier"] ++ (particular command).map (·.1)

/-- A template whose names are all plain and each of one kind, and that writes nothing in any case
that the answer may lack. -/
structure Suited (command : Command) (template : Template) : Prop where
  closed : template.isClosed = true
  plain : ∀ path ∈ template.names.all, Template.IsPlain path
  single : ∀ path ∈ template.names.repeated,
    path ∉ template.names.required ++ template.names.optional ++ standardNames command
  covered : ∀ path ∈ template.names.required, path ∈ standardNames command
  foreign : "result" ∉ template.names.all

theorem suited {command : Command} (business : command.isSessionControl = false) :
    ∃ template, Templates.bundledTemplate? command = some template ∧ Suited command template := by
  cases command with
  | login | scStatus | requestAcsResend => cases business
  | _ =>
    exact ⟨_, rfl, by decide +kernel, by decide +kernel, by decide +kernel, by decide +kernel,
      by decide +kernel⟩

theorem standardNames_eq {command : Command} {message : Message}
    (patron : (message.field? "AA").isSome = true) (item : (message.field? "AB").isSome = true)
    (now : Time.Moment) :
    (common message now ++ subject message ++ particular command).map (·.1) =
      standardNames command := by
  obtain ⟨patron, named⟩ := Option.isSome_iff_exists.mp patron
  obtain ⟨item, named'⟩ := Option.isSome_iff_exists.mp item
  simp [common, subject, standardNames, named, named']

/-- What the gateway says itself can be written. -/
theorem standard_isScalar (command : Command) (message : Message) (now : Time.Moment) :
    ∀ binding ∈ common message now ++ subject message ++ particular command,
      binding.2.isScalar = true := by
  have own : ∀ binding ∈ particular command, binding.2.isScalar = true := by
    cases command <;> decide
  have subject : ∀ binding ∈ subject message, binding.2.isScalar = true := by
    intro binding bound
    simp only [Answer.subject, List.mem_append, Option.mem_toList, Option.map_eq_some_iff] at bound
    rcases bound with ⟨patron, -, rfl⟩ | ⟨item, -, rfl⟩ <;> rfl
  have common : ∀ binding ∈ common message now, binding.2.isScalar = true := by
    simp [Answer.common, Json.isScalar]
  simp only [List.forall_mem_append]
  exact ⟨⟨common, subject⟩, own⟩

namespace Suited

variable {command : Command} {template : Template} {message : Message} {answer : Json}

/-- Whatever a completed answer says, the template can take it. -/
theorem takes (suited : Suited command template) (now : Time.Moment)
    (patron : (message.field? "AA").isSome = true) (item : (message.field? "AB").isSome = true)
    (given : ∀ members, answer = .object members →
      ∀ binding ∈ members, template.names.Takes binding) :
    ∀ binding ∈ common message now ++ subject message ++ particular command ++ Answer.given answer,
      template.names.Takes binding := by
  rw [List.forall_mem_append]
  constructor
  · intro binding bound
    have named : binding.1 ∈ standardNames command := by
      rw [← standardNames_eq patron item now]
      exact List.mem_map_of_mem bound
    rw [Names.Takes, if_neg fun repeats => suited.single _ repeats (List.mem_append_right _ named)]
    exact fun _ => standard_isScalar command message now binding bound
  · intro binding bound
    cases answer with
    | object members => exact given members rfl binding bound
    | null => cases bound
    -- No template knows the name that an answer which is no object is put under.
    | _ =>
      obtain rfl := List.mem_singleton.mp bound
      rw [Names.Takes, if_neg fun repeats => suited.foreign (List.mem_append_right _ repeats)]
      exact fun asked => (suited.foreign asked).elim

theorem provides (suited : Suited command template) (now : Time.Moment)
    (patron : (message.field? "AA").isSome = true) (item : (message.field? "AB").isSome = true)
    (given : ∀ members, answer = .object members →
      ∀ binding ∈ members, template.names.Takes binding) :
    Template.Provides [complete command message now answer] template.names
      template.names.required := by
  have takes := suited.takes now patron item given
  have lookup {path : String} (asked : path ∈ template.names.all) :
      Template.lookup [complete command message now answer] path =
        (Sorted.ofList (common message now ++ subject message ++ particular command ++
          Answer.given answer)).lookup path :=
    Template.lookup_of_isPlain (suited.plain path asked) _
  have scalar {path : String} {value : Json}
      (once : path ∈ template.names.required ++ template.names.optional)
      (found : Template.lookup [complete command message now answer] path = some value) :
      value.isScalar = true := by
    have asked : path ∈ template.names.all := List.mem_append_left _ once
    rw [lookup asked] at found
    have taken := takes _ (Sorted.mem_of_lookup_ofList found)
    rw [Names.Takes, if_neg fun repeats => suited.single _ repeats (List.mem_append_left _ once)]
      at taken
    exact taken asked
  refine ⟨fun path member => ?_, fun path member value => ?_, fun path member => ?_⟩
  · have once := List.mem_append_left template.names.optional member
    have named : path ∈ (common message now ++ subject message ++ particular command ++
        Answer.given answer).map (·.1) := by
      rw [List.map_append, standardNames_eq patron item now]
      exact List.mem_append_left _ (suited.covered path member)
    obtain ⟨value, found⟩ := Sorted.exists_lookup_ofList named
    rw [← lookup (List.mem_append_left _ once)] at found
    exact ⟨value, found, scalar once found⟩
  · exact scalar (List.mem_append_right _ member)
  · have asked : path ∈ template.names.all := List.mem_append_right _ member
    refine ⟨(suited.plain path asked).ne_dot, fun value found => ?_⟩
    rw [lookup asked] at found
    have taken := takes _ (Sorted.mem_of_lookup_ofList found)
    rwa [Names.Takes, if_pos member] at taken

end Suited

/-- To a business request that names a patron and an item, every answer of the platform that can be
written is rendered by the bundled template, and the body begins with the code of the answer. So
this is what the session sends, and not an empty body. -/
theorem complete_renders {command : Command} {message : Message} {answer : Json}
    (business : command.isSessionControl = false) (asks : message.command = some command)
    (patron : (message.field? "AA").isSome = true) (item : (message.field? "AB").isSome = true)
    (writable : Writable command answer) :
    ∃ code, command.responseCode? = some code ∧
      (∀ now, ∃ rest, Templates.bundled.render command (complete command message now answer) =
        .ok (code ++ rest)) ∧
      ∀ setup account shared context, ∃ model rest,
        (Dispatch.platformAnswered setup message account (.ok answer) shared context).stage =
            .finished (.ok model) ∧
          Turn.rendered Templates.bundled message (Dispatch.outcome message (.ok model)) =
            .ok (code ++ rest) := by
  obtain ⟨template, found, suited⟩ := suited business
  have given : ∀ members, answer = .object members →
      ∀ binding ∈ members, template.names.Takes binding := by
    rintro members rfl
    simpa [Writable, asked, found] using writable
  obtain ⟨code, rest, answers, -⟩ := Templates.bundledTemplate?_head found
  have renders (now : Time.Moment) : ∃ rest, Templates.bundled.render command
      (complete command message now answer) = .ok (code ++ rest) := by
    obtain ⟨text, made⟩ :=
      Template.render_total suited.closed (suited.provides now patron item given)
    have renders : Templates.bundled.render command (complete command message now answer) =
        .ok text := by
      rw [Templates.render, Templates.template?_bundled, found]
      exact made
    obtain ⟨own, back, same, rfl⟩ := Templates.render_bundled_head renders
    cases answers.symm.trans same
    exact ⟨back, renders⟩
  refine ⟨code, answers, renders, fun setup account shared context => ?_⟩
  obtain ⟨rest, made⟩ := renders (setup.localTime shared.now)
  refine ⟨complete command message (setup.localTime shared.now) answer, rest, ?_, ?_⟩
  · simp [Dispatch.platformAnswered, asks, Dispatch.rest]
  · rw [Dispatch.outcome, asks]
    exact made

/-- A request for what a patron has, naming an item as well. -/
def cardRequest : Message :=
  ⟨"63", some .patronInformation, [], [⟨"AA", "reader"⟩, ⟨"AB", "book"⟩], none, none⟩

/-- An answer to it, with an array and with a value that the gateway would have said itself. -/
def cardAnswer : Json :=
  .object [("charged_items", .array [.string "book", .nat 7]), ("fee_limit", .nat 5),
    ("patron_status", .bool true)]

theorem complete_renders_card :
    Writable .patronInformation cardAnswer ∧ ∃ code,
      Command.patronInformation.responseCode? = some code ∧
      (∀ now, ∃ rest, Templates.bundled.render .patronInformation
        (complete .patronInformation cardRequest now cardAnswer) = .ok (code ++ rest)) ∧
      ∀ setup account shared context, ∃ model rest,
        (Dispatch.platformAnswered setup cardRequest account (.ok cardAnswer) shared
            context).stage = .finished (.ok model) ∧
          Turn.rendered Templates.bundled cardRequest (Dispatch.outcome cardRequest (.ok model)) =
            .ok (code ++ rest) := by
  have writable : Writable .patronInformation cardAnswer := by
    unfold Writable cardAnswer
    decide +kernel
  exact ⟨writable, complete_renders rfl rfl (by decide +kernel) (by decide +kernel) writable⟩

end Answer

end SelfCheck
