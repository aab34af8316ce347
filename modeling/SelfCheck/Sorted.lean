/-! Association lists in the order of their keys, each key once. -/

set_option autoImplicit false

namespace SelfCheck.Sorted

variable {κ α : Type} [DecidableEq κ] [LT κ] [DecidableLT κ]

/-- The list with `key` bound to `value`. -/
def put (key : κ) (value : α) : List (κ × α) → List (κ × α)
  | [] => [(key, value)]
  | (k, v) :: rest =>
    if key = k then (key, value) :: rest
    else if key < k then (key, value) :: (k, v) :: rest
    else (k, v) :: put key value rest

/-- The list with every binding of `more` put over it, in order. -/
def putAll (bindings more : List (κ × α)) : List (κ × α) :=
  more.foldl (fun all (key, value) => put key value all) bindings

/-- The bindings of a list; of equal keys the last one counts. -/
def ofList (bindings : List (κ × α)) : List (κ × α) := putAll [] bindings

theorem lookup_put_self (key : κ) (value : α) (bindings : List (κ × α)) :
    (put key value bindings).lookup key = some value := by
  induction bindings with
  | nil => simp [put]
  | cons head rest ih =>
    obtain ⟨k, v⟩ := head
    simp only [put]
    split
    · simp
    · next differs =>
      split
      · simp
      · simp [List.lookup_cons, beq_false_of_ne differs, ih]

theorem put_put (key : κ) (first second : α) (bindings : List (κ × α)) :
    put key second (put key first bindings) = put key second bindings := by
  induction bindings with
  | nil => simp [put]
  | cons head rest ih =>
    obtain ⟨k, v⟩ := head
    by_cases same : key = k
    · simp [put, same]
    · by_cases before : key < k
      · simp [put, same, before]
      · simp [put, same, before, ih]

theorem lookup_put_of_ne {key other : κ} (differs : other ≠ key) (value : α)
    (bindings : List (κ × α)) : (put key value bindings).lookup other = bindings.lookup other := by
  have unequal : (other == key) = false := beq_false_of_ne differs
  induction bindings with
  | nil => simp [put, List.lookup_cons, unequal]
  | cons head rest ih =>
    obtain ⟨k, v⟩ := head
    simp only [put]
    split
    · next same =>
      subst same
      simp [List.lookup_cons, unequal]
    · split
      · rw [List.lookup_cons, unequal]
      · rw [List.lookup_cons, List.lookup_cons, ih]

/-- Putting a number in, or behind, a row of numbers. -/
theorem keys_put_of_le {first count key : Nat} (value : α) {bindings : List (Nat × α)}
    (row : bindings.map (·.1) = List.range' first count) (low : first ≤ key)
    (high : key ≤ first + count) :
    (put key value bindings).map (·.1) =
      List.range' first (if key = first + count then count + 1 else count) := by
  induction bindings generalizing first count with
  | nil =>
    have none : count = 0 := by
      have lengths := congrArg List.length row
      simpa using lengths.symm
    subst none
    have same : key = first := by omega
    simp [put, same]
  | cons head rest ih =>
    obtain ⟨k, v⟩ := head
    cases count with
    | zero => simp at row
    | succ count =>
      rw [List.map_cons, List.range'_succ, List.cons.injEq] at row
      obtain ⟨same, row⟩ := row
      dsimp only at same
      subst same
      -- The row is in order, so a number that is not its first stands further behind.
      by_cases here : key = k
      · have inside : ¬key = k + (count + 1) := by omega
        rw [put, if_pos here, if_neg inside, List.map_cons, row, here, List.range'_succ]
      · have behind : ¬key < k := by omega
        rw [put, if_neg here, if_neg behind, List.map_cons, ih row (by omega) (by omega)]
        have shift : (key = k + 1 + count) = (key = k + (count + 1)) := by
          apply propext
          omega
        rw [← List.range'_succ]
        congr 1
        simp only [shift]
        split <;> rfl

end SelfCheck.Sorted
