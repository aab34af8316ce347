import SelfCheck.Answer
import SelfCheck.Proofs.Message.Texts
import SelfCheck.Proofs.Template
import SelfCheck.Proofs.Time.Stamp

/-! The strings in the models of answers, and where they come from.

What the gateway says itself has no carriage return, and neither has a request. So the other strings
in a model are those of the platform's answer or, in a status answer, those of library and station.
Of the platform's answer only the members that the template names are written.
-/

set_option autoImplicit false

namespace SelfCheck

namespace Sorted

variable {κ α : Type} [DecidableEq κ] [LT κ] [DecidableLT κ]

theorem mem_put {key : κ} {value : α} {bindings : List (κ × α)} {binding : κ × α}
    (member : binding ∈ put key value bindings) :
    binding = (key, value) ∨ binding ∈ bindings := by
  induction bindings with
  | nil => exact .inl (List.mem_singleton.mp member)
  | cons head rest ih =>
    obtain ⟨k, v⟩ := head
    simp only [put] at member
    split at member
    · rcases List.mem_cons.mp member with same | member
      · exact .inl same
      · exact .inr (List.mem_cons_of_mem _ member)
    · split at member
      · exact List.mem_cons.mp member
      · rcases List.mem_cons.mp member with same | member
        · exact .inr (same ▸ List.mem_cons_self)
        · exact (ih member).imp_right (List.mem_cons_of_mem _)

theorem mem_putAll {more bindings : List (κ × α)} {binding : κ × α}
    (member : binding ∈ putAll bindings more) : binding ∈ bindings ∨ binding ∈ more := by
  unfold putAll at member
  induction more generalizing bindings with
  | nil => exact .inl member
  | cons head more ih =>
    rcases ih member with early | late
    · rcases mem_put early with same | old
      · exact .inr (same ▸ List.mem_cons_self)
      · exact .inl old
    · exact .inr (List.mem_cons_of_mem _ late)

theorem mem_ofList {bindings : List (κ × α)} {binding : κ × α}
    (member : binding ∈ ofList bindings) : binding ∈ bindings :=
  (mem_putAll member).resolve_left (by simp)

theorem mem_of_lookup_ofList {bindings : List (κ × α)} {key : κ} {value : α}
    (found : (ofList bindings).lookup key = some value) : (key, value) ∈ bindings := by
  obtain ⟨front, back, same, -⟩ := List.lookup_eq_some_iff.mp found
  exact mem_ofList (by simp [same])

end Sorted

namespace Json

/-- What holds of the strings of all members holds of the strings of an object of them. -/
theorem forall_strings_ofMembers {members : List (String × Json)} {p : String → Prop}
    (each : ∀ member ∈ members, ∀ s ∈ member.2.strings, p s) :
    ∀ s ∈ (ofMembers members).strings, p s := by
  intro s inside
  obtain ⟨member, bound, inside⟩ := mem_stringsOfMembers.mp inside
  exact each member (Sorted.mem_ofList bound) s inside

@[simp] theorem unbroken_string {s : String} : (string s).Unbroken ↔ Text.Unbroken s := by
  simp [Unbroken, strings]

@[simp] theorem unbroken_bool (b : Bool) : (bool b).Unbroken := by simp [Unbroken, strings]

@[simp] theorem unbroken_nat (n : Nat) : (nat n).Unbroken := by simp [nat, Unbroken, strings]

end Json

/-! What the gateway says itself. -/

namespace Time

theorem stamp_unbroken (moment : Moment) : Text.Unbroken (stamp moment) :=
  not_mem_stamp (by decide) moment

end Time

theorem AcsPolicy.flags_unbroken (policy : AcsPolicy) : Text.Unbroken policy.flags := by
  unfold Text.Unbroken flags
  rw [String.toList_ofList, List.mem_map]
  rintro ⟨command, -, same⟩
  unfold flag at same
  split at same <;> revert same <;> decide

namespace Answer

theorem flag_unbroken (ok : Bool) : (flag ok).Unbroken := by
  cases ok <;> (unfold Json.Unbroken; decide)

/-- The strings of a library and its station in a status answer. -/
def stationTexts (tenant : TenantId) (station : Station) : List String :=
  [tenant.text, station.libraryName, station.terminalLocation]

theorem status_strings (tenant : TenantId) (acs : AcsPolicy) (station : Station)
    (now : Time.Moment) :
    ∀ s ∈ (status tenant acs station now).strings,
      s ∈ stationTexts tenant station ∨ Text.Unbroken s := by
  have version : Text.Unbroken "2.00" := by decide
  apply Json.forall_strings_ofMembers
  simp [Json.strings, Json.nat, stationTexts, version, Time.stamp_unbroken,
    AcsPolicy.flags_unbroken]

theorem common_unbroken {message : Message} (clean : message.Unbroken) (now : Time.Moment) :
    ∀ member ∈ common message now, member.2.Unbroken := by
  have given (value : Option String) (standard : String)
      (clean : ∀ text, value = some text → Text.Unbroken text) (own : Text.Unbroken standard) :
      Text.Unbroken (value.getD standard) := by
    cases value with
    | none => exact own
    | some text => exact clean text rfl
  have institution := given (message.field? "AO") "" (fun _ => clean.field?) (by decide)
  have language := given (message.fixed? "language") "000" (fun _ => clean.fixed?) (by decide)
  have status : Text.Unbroken (Text.padEnd 14 "") := by decide
  simp [common, institution, language, status, Time.stamp_unbroken, Text.unbroken_empty]

theorem subject_unbroken {message : Message} (clean : message.Unbroken) :
    ∀ member ∈ subject message, member.2.Unbroken := by
  intro member bound
  simp only [subject, List.mem_append, Option.mem_toList, Option.map_eq_some_iff] at bound
  rcases bound with ⟨patron, found, rfl⟩ | ⟨item, found, rfl⟩
  · exact Json.unbroken_string.mpr (clean.field? found)
  · exact Json.unbroken_string.mpr (clean.field? found)

theorem particular_unbroken (command : Command) :
    ∀ member ∈ particular command, member.2.Unbroken := by
  unfold Json.Unbroken
  cases command <;> decide

/-- The names whose values the bundled answer to a command may write. -/
def written (command : Command) : List String :=
  ((Templates.bundledTemplate? command).map Template.writes).getD []

theorem isPlain_of_written {command : Command} :
    ∀ path ∈ written command, Template.IsPlain path := by
  cases command <;> decide +kernel

/-- The strings of a platform's answer that the answer to a command may write: those in the members
that its template names. -/
def platformTexts (command : Command) (answer : Json) : List String :=
  ((given answer).filter (·.1 ∈ written command)).flatMap (·.2.strings)

/-- Whatever may be written of an object is in one of the members that it is made of. -/
theorem mem_bundledTexts_ofMembers {command : Command} {members : List (String × Json)} {s : String}
    (inside : s ∈ Templates.bundledTexts command (.ofMembers members)) :
    ∃ member ∈ members, member.1 ∈ written command ∧ s ∈ member.2.strings := by
  have plain : ∀ path ∈ written command, Template.IsPlain path := isPlain_of_written
  unfold Templates.bundledTexts at inside
  unfold written at plain ⊢
  cases found : Templates.bundledTemplate? command with
  | none =>
    rw [found] at inside
    cases inside
  | some template =>
    rw [found] at inside plain
    obtain ⟨path, named, value, bound, inside⟩ := Template.mem_texts.mp inside
    rw [Template.lookup_of_isPlain (plain path named)] at bound
    exact ⟨(path, value), Sorted.mem_of_lookup_ofList bound, named, inside⟩

/-- A completed answer writes texts of the platform, and no carriage return besides. -/
theorem complete_texts {message : Message} (clean : message.Unbroken) (command : Command)
    (now : Time.Moment) (answer : Json) :
    ∀ s ∈ Templates.bundledTexts command (complete command message now answer),
      s ∈ platformTexts command answer ∨ Text.Unbroken s := by
  intro s inside
  -- A member may be put in twice; whichever stays is from one of the four lists.
  obtain ⟨member, bound, named, inside⟩ := mem_bundledTexts_ofMembers inside
  simp only [List.mem_append, or_assoc] at bound
  rcases bound with common | subject | particular | given
  · exact .inr (common_unbroken clean now member common s inside)
  · exact .inr (subject_unbroken clean member subject s inside)
  · exact .inr (particular_unbroken command member particular s inside)
  · refine .inl (List.mem_flatMap.mpr ⟨member, List.mem_filter.mpr ⟨given, ?_⟩, inside⟩)
    exact decide_eq_true named

end Answer

end SelfCheck
