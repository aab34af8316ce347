import SelfCheck.Proofs.Message.Stages
import SelfCheck.Proofs.Text.Utf8

/-! The texts of a request: what stands in its frame, and nothing else. -/

set_option autoImplicit false

namespace SelfCheck.Message

open Text (decode unbroken_decode)

/-- A request without a carriage return in its code or its values. -/
structure Unbroken (message : Message) : Prop where
  code : Text.Unbroken message.code
  fixed : ∀ field ∈ message.fixed, Text.Unbroken field.value
  tagged : ∀ field ∈ message.tagged, Text.Unbroken field.value

theorem Unbroken.field? {message : Message} (clean : message.Unbroken) {tag value : String}
    (found : message.field? tag = some value) : Text.Unbroken value := by
  obtain ⟨field, stands, rfl⟩ := Option.map_eq_some_iff.mp found
  exact clean.tagged field (List.mem_of_find?_eq_some stands)

theorem Unbroken.fixed? {message : Message} (clean : message.Unbroken) {name value : String}
    (found : message.fixed? name = some value) : Text.Unbroken value := by
  obtain ⟨field, stands, rfl⟩ := Option.map_eq_some_iff.mp found
  exact clean.fixed field (List.mem_of_find?_eq_some stands)

theorem trimTerminators_subset (raw : List UInt8) : trimTerminators raw ⊆ raw := by
  intro b member
  unfold trimTerminators at member
  exact List.mem_reverse.mp ((List.dropWhile_suffix _).subset (List.mem_reverse.mp member))

theorem takeSequence_subset {checksum : UInt16} {body : List UInt8} {unwrapped : Unwrapped}
    (taken : takeSequence checksum body = .ok unwrapped) : unwrapped.body ⊆ body := by
  obtain rfl | ⟨front, b, rfl, -, -, rfl⟩ := takeSequence_eq_ok taken
  · exact List.Subset.refl _
  · rw [List.append_assoc]
    exact List.subset_append_left _ _

theorem unwrap_subset {raw : List UInt8} {unwrapped : Unwrapped}
    (opened : unwrap raw = .ok unwrapped) : unwrapped.body ⊆ raw := by
  unfold unwrap at opened
  split at opened
  · dsimp only at opened
    split at opened
    · exact List.Subset.trans (takeSequence_subset opened) (List.take_subset _ _)
    · cases opened
  · cases opened
    exact List.Subset.refl _

theorem readFixed_unbroken {slots : List Slot} {bytes rest : List UInt8}
    {fields : List FixedField} (absent : 13 ∉ bytes)
    (reads : readFixed slots bytes = .ok (fields, rest)) :
    (∀ field ∈ fields, Text.Unbroken field.value) ∧ 13 ∉ rest := by
  induction slots generalizing bytes fields with
  | nil =>
    cases reads
    exact ⟨by simp, absent⟩
  | cons slot slots ih =>
    obtain ⟨-, others, rfl, inner⟩ := readFixed_cons_eq_ok reads
    obtain ⟨clean, absent'⟩ := ih (fun member => absent (List.mem_of_mem_drop member)) inner
    refine ⟨List.forall_mem_cons.mpr ⟨?_, clean⟩, absent'⟩
    exact unbroken_decode fun member => absent (List.mem_of_mem_take member)

theorem readTagged_unbroken {delimiter : UInt8} {bytes : List UInt8} {fields : List TaggedField}
    (absent : 13 ∉ bytes) (reads : readTagged delimiter bytes = .ok fields) :
    ∀ field ∈ fields, Text.Unbroken field.value := by
  induction fields generalizing bytes with
  | nil => exact fun _ member => (List.not_mem_nil member).elim
  | cons field fields ih =>
    obtain ⟨-, none⟩ | ⟨a, b, value, more, others, rfl, -, same, inner⟩ := readTagged_eq_ok reads
    · cases none
    · cases same
      have absentValue : 13 ∉ value := fun member => absent (by simp [member])
      have absentMore : 13 ∉ more := fun member => absent (by simp [member])
      exact List.forall_mem_cons.mpr ⟨unbroken_decode absentValue, ih absentMore inner⟩

/-- What is read from a frame without a carriage return has none. -/
theorem read_unbroken {frame : List UInt8} {delimiter : UInt8} {message : Message}
    (absent : 13 ∉ frame) (reads : read frame delimiter = .ok message) : message.Unbroken := by
  obtain ⟨unwrapped, rest, stages⟩ := exists_stages reads
  have absentRaw : 13 ∉ trimTerminators frame := fun member =>
    absent (trimTerminators_subset frame member)
  have absentBody : 13 ∉ unwrapped.body.drop 2 := fun member =>
    absentRaw (unwrap_subset stages.opened (List.mem_of_mem_drop member))
  obtain ⟨clean, absentRest⟩ := readFixed_unbroken absentBody stages.fixed
  refine ⟨?_, clean, readTagged_unbroken absentRest stages.tagged⟩
  rw [stages.code]
  exact unbroken_decode fun member => absentRaw (List.mem_of_mem_take member)

end SelfCheck.Message
