import SelfCheck.Frame.Split

/-! Frames at the front of a buffer, also when more bytes come.

A frame that can be taken stays the same whatever comes behind it. As long as none can be taken it
does not matter whether the filler in front has been dropped before or after more bytes come.
-/

set_option autoImplicit false

namespace SelfCheck.Frame

variable {delimiter : UInt8} {limit : Nat} {buffer bytes rest : List UInt8}

theorem takeWhile_of_not_mem (absent : delimiter ∉ bytes) :
    bytes.takeWhile (· != delimiter) = bytes ∧ bytes.dropWhile (· != delimiter) = [] := by
  induction bytes with
  | nil => exact ⟨rfl, rfl⟩
  | cons b bytes ih =>
    obtain ⟨differs, absent⟩ := List.ne_and_not_mem_of_not_mem_cons absent
    obtain ⟨taken, dropped⟩ := ih absent
    have inner : (b != delimiter) = true := by simpa using differs.symm
    simp [inner, taken, dropped]

theorem takeWhile_append_cons (absent : delimiter ∉ bytes) (rest : List UInt8) :
    (bytes ++ delimiter :: rest).takeWhile (· != delimiter) = bytes ∧
      (bytes ++ delimiter :: rest).dropWhile (· != delimiter) = delimiter :: rest := by
  have inner : ∀ b ∈ bytes, (b != delimiter) = true := by
    intro b member
    rw [bne_iff_ne]
    rintro rfl
    exact absent member
  constructor
  · rw [List.takeWhile_append_of_pos inner, List.takeWhile_cons_of_neg (by simp),
      List.append_nil]
  · rw [List.dropWhile_append_of_pos inner, List.dropWhile_cons_of_neg (by simp)]

theorem exists_of_dropWhile {mark : UInt8}
    (found : bytes.dropWhile (· != delimiter) = mark :: rest) :
    ∃ front, bytes = front ++ delimiter :: rest ∧ delimiter ∉ front := by
  by_cases present : delimiter ∈ bytes
  · obtain ⟨front, back, rfl, absent⟩ := List.eq_append_cons_of_mem present
    rw [(takeWhile_append_cons absent back).2] at found
    cases found
    exact ⟨front, rfl, absent⟩
  · rw [(takeWhile_of_not_mem present).2] at found
    cases found

theorem not_mem_of_dropWhile (ends : bytes.dropWhile (· != delimiter) = []) :
    delimiter ∉ bytes := by
  intro present
  obtain ⟨front, back, rfl, absent⟩ := List.eq_append_cons_of_mem present
  rw [(takeWhile_append_cons absent back).2] at ends
  cases ends

/-! What is at the front of a buffer, by what stands behind the filler. -/

theorem split_of_absent (absent : delimiter ∉ dropFiller delimiter buffer) :
    split delimiter limit buffer =
      if limit < (dropFiller delimiter buffer).length then
        .tooLarge (dropFiller delimiter buffer).length (dropFiller delimiter buffer)
      else .incomplete (dropFiller delimiter buffer) := by
  obtain ⟨taken, dropped⟩ := takeWhile_of_not_mem absent
  unfold split
  dsimp only
  rw [taken, dropped]

theorem split_of_start (start : dropFiller delimiter buffer = bytes ++ delimiter :: rest)
    (absent : delimiter ∉ bytes) :
    split delimiter limit buffer =
      if limit < bytes.length then .tooLarge bytes.length (bytes ++ delimiter :: rest)
      else .frame bytes rest := by
  obtain ⟨taken, dropped⟩ := takeWhile_append_cons absent rest
  unfold split
  dsimp only
  rw [start, taken, dropped]

/-- A frame stands between filler and a delimiter. -/
theorem split_eq_frame : split delimiter limit buffer = .frame bytes rest ↔
    dropFiller delimiter buffer = bytes ++ delimiter :: rest ∧ delimiter ∉ bytes ∧
      bytes.length ≤ limit := by
  constructor
  · intro taken
    by_cases present : delimiter ∈ dropFiller delimiter buffer
    · obtain ⟨front, back, start, absent⟩ := List.eq_append_cons_of_mem present
      rw [split_of_start start absent] at taken
      split at taken
      · cases taken
      · next fits =>
        cases taken
        exact ⟨start, absent, Nat.le_of_not_lt fits⟩
    · rw [split_of_absent present] at taken
      split at taken <;> cases taken
  · rintro ⟨start, absent, fits⟩
    rw [split_of_start start absent, if_neg (Nat.not_lt.mpr fits)]

theorem split_eq_incomplete : split delimiter limit buffer = .incomplete rest ↔
    dropFiller delimiter buffer = rest ∧ delimiter ∉ rest ∧ rest.length ≤ limit := by
  constructor
  · intro taken
    by_cases present : delimiter ∈ dropFiller delimiter buffer
    · obtain ⟨front, back, start, absent⟩ := List.eq_append_cons_of_mem present
      rw [split_of_start start absent] at taken
      split at taken <;> cases taken
    · rw [split_of_absent present] at taken
      split at taken
      · cases taken
      · next fits =>
        cases taken
        exact ⟨rfl, present, Nat.le_of_not_lt fits⟩
  · rintro ⟨rfl, absent, fits⟩
    rw [split_of_absent absent, if_neg (Nat.not_lt.mpr fits)]

theorem split_nil (delimiter : UInt8) (limit : Nat) :
    split delimiter limit [] = .incomplete [] :=
  split_eq_incomplete.mpr ⟨rfl, by simp, Nat.zero_le limit⟩

theorem length_pos_of_tooLarge {length : Nat}
    (taken : split delimiter limit buffer = .tooLarge length rest) : 0 < buffer.length := by
  cases buffer with
  | nil =>
    rw [split_nil] at taken
    cases taken
  | cons b buffer => exact Nat.succ_pos _

/-! More bytes. -/

theorem dropFiller_append (delimiter : UInt8) (buffer more : List UInt8) :
    dropFiller delimiter (buffer ++ more) =
      if dropFiller delimiter buffer = [] then dropFiller delimiter more
      else dropFiller delimiter buffer ++ more := by
  unfold dropFiller
  rw [List.dropWhile_append]
  simp only [List.isEmpty_iff]

theorem dropFiller_dropFiller (delimiter : UInt8) (buffer : List UInt8) :
    dropFiller delimiter (dropFiller delimiter buffer) = dropFiller delimiter buffer := by
  cases start : dropFiller delimiter buffer with
  | nil => rfl
  | cons b rest =>
    have stops := List.head?_dropWhile_not (isFiller delimiter) buffer
    rw [← dropFiller, start] at stops
    exact List.dropWhile_cons_of_neg (by simpa using stops)

theorem dropFiller_append_dropFiller (delimiter : UInt8) (buffer more : List UInt8) :
    dropFiller delimiter (dropFiller delimiter buffer ++ more) =
      dropFiller delimiter (buffer ++ more) := by
  rw [dropFiller_append, dropFiller_append, dropFiller_dropFiller]

theorem split_congr {other : List UInt8}
    (same : dropFiller delimiter buffer = dropFiller delimiter other) :
    split delimiter limit buffer = split delimiter limit other := by
  unfold split
  rw [same]

theorem split_append_of_frame (taken : split delimiter limit buffer = .frame bytes rest)
    (more : List UInt8) : split delimiter limit (buffer ++ more) = .frame bytes (rest ++ more) := by
  obtain ⟨start, absent, fits⟩ := split_eq_frame.mp taken
  refine split_eq_frame.mpr ⟨?_, absent, fits⟩
  rw [dropFiller_append, start, if_neg (by simp), List.append_assoc, List.cons_append]

theorem split_append_of_incomplete (taken : split delimiter limit buffer = .incomplete rest)
    (more : List UInt8) : split delimiter limit (buffer ++ more) =
      split delimiter limit (rest ++ more) := by
  obtain ⟨rfl, -, -⟩ := split_eq_incomplete.mp taken
  exact split_congr (dropFiller_append_dropFiller delimiter buffer more).symm

/-- What is left is left again. -/
theorem split_incomplete (taken : split delimiter limit buffer = .incomplete rest) :
    split delimiter limit rest = .incomplete rest := by
  have again := split_append_of_incomplete taken []
  rw [List.append_nil, List.append_nil, taken] at again
  exact again.symm

/-- A piece is too large when it has too many bytes in front of any delimiter. -/
theorem split_tooLarge_iff : (∃ length left, split delimiter limit buffer = .tooLarge length left) ↔
    ∃ front back, dropFiller delimiter buffer = front ++ back ∧ delimiter ∉ front ∧
      limit < front.length := by
  constructor
  · rintro ⟨length, left, taken⟩
    by_cases present : delimiter ∈ dropFiller delimiter buffer
    · obtain ⟨front, back, start, absent⟩ := List.eq_append_cons_of_mem present
      rw [split_of_start start absent] at taken
      split at taken
      · next large => exact ⟨front, _, start, absent, large⟩
      · cases taken
    · rw [split_of_absent present] at taken
      split at taken
      · next large => exact ⟨_, [], (List.append_nil _).symm, present, large⟩
      · cases taken
  · rintro ⟨front, back, start, absent, large⟩
    cases taken : split delimiter limit buffer with
    | tooLarge length left => exact ⟨length, left, rfl⟩
    | incomplete left =>
      obtain ⟨same, -, fits⟩ := split_eq_incomplete.mp taken
      rw [← same, start, List.length_append] at fits
      omega
    | frame bytes rest =>
      obtain ⟨same, -, fits⟩ := split_eq_frame.mp taken
      rw [start] at same
      -- The delimiter behind so short a frame would stand in the front part.
      rcases List.append_eq_append_iff.mp same with ⟨between, rfl, -⟩ | ⟨between, rfl, tail⟩
      · rw [List.length_append] at fits
        omega
      · cases between with
        | nil => simp at large; omega
        | cons b between =>
          obtain ⟨rfl, -⟩ := List.cons.inj tail
          simp at absent

/-- Too much is too much, whatever comes behind it. -/
theorem split_append_of_tooLarge
    (large : ∃ length left, split delimiter limit buffer = .tooLarge length left)
    (more : List UInt8) :
    ∃ length left, split delimiter limit (buffer ++ more) = .tooLarge length left := by
  obtain ⟨front, back, start, absent, large⟩ := split_tooLarge_iff.mp large
  refine split_tooLarge_iff.mpr ⟨front, back ++ more, ?_, absent, large⟩
  have some : front ≠ [] := by
    rintro rfl
    cases large
  rw [dropFiller_append, start, if_neg (by simp [some]), List.append_assoc]

end SelfCheck.Frame
