import SelfCheck.Sorted
import Mathlib.Data.List.Nodup

/-! Tables of bindings with different keys.

Nothing is lost on the way into a table, and the order in which bindings are put does not matter.
-/

set_option autoImplicit false

namespace SelfCheck.Sorted

section

variable {κ α : Type} [DecidableEq κ] [LT κ] [DecidableLT κ]

/-- A new key is put somewhere. -/
theorem put_perm {key : κ} {bindings : List (κ × α)} (fresh : key ∉ bindings.map (·.1))
    (value : α) : (put key value bindings).Perm ((key, value) :: bindings) := by
  induction bindings with
  | nil => exact .refl _
  | cons head rest ih =>
    obtain ⟨k, v⟩ := head
    rw [List.map_cons, List.mem_cons, not_or] at fresh
    rw [put, if_neg fresh.1]
    split
    · exact .refl _
    · exact ((ih fresh.2).cons _).trans (.swap ..)

theorem putAll_perm {bindings more : List (κ × α)}
    (distinct : ((more ++ bindings).map (·.1)).Nodup) :
    (putAll bindings more).Perm (more ++ bindings) := by
  induction more generalizing bindings with
  | nil => exact .refl _
  | cons head more ih =>
    obtain ⟨key, value⟩ := head
    have middle : (more ++ (key, value) :: bindings).Perm ((key, value) :: more ++ bindings) :=
      List.perm_middle
    have fresh : key ∉ bindings.map (·.1) := by
      rw [List.cons_append, List.map_cons, List.nodup_cons, List.map_append] at distinct
      exact fun bound => distinct.1 (List.mem_append_right _ bound)
    have inserted := ((put_perm fresh value).append_left more).trans middle
    exact (ih ((inserted.map _).nodup_iff.mpr distinct)).trans inserted

/-- A table has the bindings that it is made of. -/
theorem ofList_perm {written : List (κ × α)} (distinct : (written.map (·.1)).Nodup) :
    (ofList written).Perm written := by
  have all : (putAll [] written).Perm (written ++ []) := putAll_perm (by rwa [List.append_nil])
  rwa [List.append_nil] at all

end

/-! The order of putting. -/

variable {α : Type} {key other : String} {value also : α} {bindings : List (String × α)}

/-- Bindings of two keys, the smaller one put last and first. -/
theorem put_put_of_lt (less : key < other) :
    put key value (put other also bindings) = put other also (put key value bindings) := by
  have differs : key ≠ other := fun same => String.lt_irrefl other (same ▸ less)
  have behind : ¬other < key := String.lt_asymm less
  induction bindings with
  | nil => simp [put, differs, differs.symm, less, behind]
  | cons head rest ih =>
    obtain ⟨k, v⟩ := head
    by_cases here : other = k
    · subst here
      simp [put, differs, differs.symm, less, behind]
    by_cases before : other < k
    · -- The other key goes in front of the head, and so does the smaller one.
      have smaller : key < k := String.lt_trans less before
      have apart : key ≠ k := fun same => String.lt_irrefl k (same ▸ smaller)
      simp [put, here, before, smaller, apart, differs, differs.symm, less, behind]
    by_cases same : key = k
    · subst same
      simp [put, here, before]
    by_cases smaller : key < k
    · simp [put, here, before, same, smaller, differs.symm, behind]
    · simp [put, here, before, same, smaller, ih]

theorem put_put_of_ne (differs : key ≠ other) :
    put key value (put other also bindings) = put other also (put key value bindings) := by
  by_cases less : key < other
  · exact put_put_of_lt less
  by_cases more : other < key
  · exact (put_put_of_lt more).symm
  · exact absurd (String.le_antisymm (String.not_lt.mp more) (String.not_lt.mp less)) differs

theorem ofList_eq_of_perm {written again : List (String × α)} (distinct : (written.map (·.1)).Nodup)
    (reordered : again.Perm written) : ofList again = ofList written := by
  refine (List.Perm.foldl_eq' reordered.symm ?_ []).symm
  intro first member second member' all
  by_cases same : first.1 = second.1
  · rw [List.inj_on_of_nodup_map distinct member member' same]
  · exact (put_put_of_ne same).symm

end SelfCheck.Sorted
