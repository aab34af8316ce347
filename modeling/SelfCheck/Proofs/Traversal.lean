/-! Work that is done step by step, as long as no step fails, and lists that are worked through item by
item. -/

set_option autoImplicit false

namespace SelfCheck

variable {ε α β : Type} {f : α → Except ε β} {item : α} {items : List α} {results : List β}

theorem bind_eq_ok {first : Except ε α} {next : α → Except ε β} {result : β} :
    first >>= next = .ok result ↔ ∃ middle, first = .ok middle ∧ next middle = .ok result := by
  cases first with
  | error fault => simp [bind, Except.bind]
  | ok middle => simp [bind, Except.bind]

theorem bind_eq_error {first : Except ε α} {next : α → Except ε β} {fault : ε} :
    first >>= next = .error fault ↔
      first = .error fault ∨ ∃ middle, first = .ok middle ∧ next middle = .error fault := by
  cases first with
  | error fault => simp [bind, Except.bind]
  | ok middle => simp [bind, Except.bind]

theorem mapM_cons_eq_ok (made : (item :: items).mapM f = .ok results) :
    ∃ front back, f item = .ok front ∧ items.mapM f = .ok back ∧ results = front :: back := by
  rw [List.mapM_cons] at made
  cases first : f item with
  | error fault =>
    rw [first] at made
    cases made
  | ok front =>
    cases rest : items.mapM f with
    | error fault =>
      rw [first, rest] at made
      cases made
    | ok back =>
      rw [first, rest] at made
      cases made
      exact ⟨front, back, rfl, rfl, rfl⟩

/-- Every result is that of an item. -/
theorem mem_of_mapM_eq_ok (made : items.mapM f = .ok results) {result : β}
    (member : result ∈ results) : ∃ item ∈ items, f item = .ok result := by
  induction items generalizing results with
  | nil =>
    cases made
    cases member
  | cons item items ih =>
    obtain ⟨front, back, first, rest, rfl⟩ := mapM_cons_eq_ok made
    rcases List.mem_cons.mp member with rfl | member
    · exact ⟨item, List.mem_cons_self, first⟩
    · obtain ⟨other, inside, reads⟩ := ih rest member
      exact ⟨other, List.mem_cons_of_mem _ inside, reads⟩

/-- Every item has a result. -/
theorem result_of_mapM_eq_ok (made : items.mapM f = .ok results) (member : item ∈ items) :
    ∃ result ∈ results, f item = .ok result := by
  induction items generalizing results with
  | nil => cases member
  | cons other items ih =>
    obtain ⟨front, back, first, rest, rfl⟩ := mapM_cons_eq_ok made
    rcases List.mem_cons.mp member with rfl | member
    · exact ⟨front, List.mem_cons_self, first⟩
    · obtain ⟨result, inside, reads⟩ := ih rest member
      exact ⟨result, List.mem_cons_of_mem _ inside, reads⟩

theorem mapM_total (each : ∀ item ∈ items, ∃ result, f item = .ok result) :
    ∃ results, items.mapM f = .ok results := by
  induction items with
  | nil => exact ⟨[], rfl⟩
  | cons item items ih =>
    obtain ⟨⟨front, first⟩, others⟩ := List.forall_mem_cons.mp each
    obtain ⟨back, rest⟩ := ih others
    exact ⟨front :: back, by rw [List.mapM_cons, first, rest]; rfl⟩

end SelfCheck
