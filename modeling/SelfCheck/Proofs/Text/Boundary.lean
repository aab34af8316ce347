import SelfCheck.Proofs.Text.Decoding

/-! Byte positions in a text that lie inside a character.

A text can be cut at a byte only where a character begins or the text ends. Everywhere else stands a
byte that follows the first one of its character, and there is nothing else that such a byte is for.
-/

set_option autoImplicit false

namespace SelfCheck.Text

/-- How many bytes characters take up. -/
def width : List Char → Nat
  | [] => 0
  | c :: chars => c.utf8Size + width chars

@[simp] theorem width_nil : width [] = 0 := rfl

@[simp] theorem width_cons (c : Char) (chars : List Char) :
    width (c :: chars) = c.utf8Size + width chars := rfl

theorem length_bytesOf_eq_width (s : String) : (bytesOf s).length = width s.toList := by
  unfold bytesOf
  induction s.toList with
  | nil => rfl
  | cons c chars ih =>
    rw [List.flatMap_cons, List.length_append, String.length_utf8EncodeChar, ih, width_cons]

/-- One of the characters begins before the limit and ends behind it. -/
def Straddled (limit : Nat) (chars : List Char) : Prop :=
  ∃ front c back, chars = front ++ c :: back ∧ width front < limit ∧
    limit < width front + c.utf8Size

variable {limit : Nat} {c : Char} {chars : List Char}

theorem not_straddled_nil : ¬Straddled limit [] := by
  rintro ⟨front, c, back, whole, -⟩
  exact absurd whole (by simp)

theorem not_straddled_zero : ¬Straddled 0 chars := by
  rintro ⟨front, c, back, -, before, -⟩
  exact Nat.not_lt_zero _ before

/-- The first character. -/
theorem straddled_cons_of_lt (inside : limit < c.utf8Size) :
    Straddled limit (c :: chars) ↔ 0 < limit := by
  constructor
  · rintro ⟨front, other, back, -, before, -⟩
    exact Nat.zero_lt_of_lt before
  · intro positive
    exact ⟨[], c, chars, rfl, positive, by simpa using inside⟩

/-- Any other. -/
theorem straddled_cons_of_le (fits : c.utf8Size ≤ limit) :
    Straddled limit (c :: chars) ↔ Straddled (limit - c.utf8Size) chars := by
  constructor
  · rintro ⟨front, other, back, whole, before, behind⟩
    cases front with
    | nil =>
      cases whole
      rw [width_nil, Nat.zero_add] at behind
      exact absurd fits (Nat.not_le.mpr behind)
    | cons first front =>
      cases whole
      rw [width_cons] at before behind
      exact ⟨front, other, back, rfl, by omega, by omega⟩
  · rintro ⟨front, other, back, rfl, before, behind⟩
    refine ⟨c :: front, other, back, rfl, ?_, ?_⟩ <;> rw [width_cons] <;> omega

/-! The bytes of a character. -/

theorem isTail_eq_false {n : Nat} (byte : n < 256) (first : n < 128 ∨ 192 ≤ n) :
    isTail (UInt8.ofNat n) = false := by
  have value : (UInt8.ofNat n).toNat = n := UInt8.toNat_ofNat_of_lt' byte
  simp only [isTail, Bool.and_eq_false_iff, decide_eq_false_iff_not, UInt8.le_iff_toNat_le, value,
    UInt8.reduceToNat]
  omega

/-- Each byte but the first follows another. -/
theorem exists_utf8EncodeChar (c : Char) :
    ∃ first others, String.utf8EncodeChar c = first :: others ∧ isTail first = false ∧
      ∀ b ∈ others, isTail b = true := by
  have follows (n : Nat) : isTail (UInt8.ofNat (n % 64 + 128)) = true :=
    (isTail_ofNat _ (Nat.mod_lt _ (by decide))).1
  unfold String.utf8EncodeChar
  generalize c.val.toNat = n
  dsimp only
  split
  · refine ⟨_, _, rfl, isTail_eq_false (by omega) (by omega), ?_⟩
    exact fun _ none => (List.not_mem_nil none).elim
  · split
    · refine ⟨_, _, rfl, isTail_eq_false (by omega) (by omega), ?_⟩
      simp only [List.mem_singleton, forall_eq, follows]
    · split
      · refine ⟨_, _, rfl, isTail_eq_false (by omega) (by omega), ?_⟩
        simp only [List.mem_cons, List.not_mem_nil, or_false, forall_eq_or_imp, forall_eq, follows,
          and_self]
      · refine ⟨_, _, rfl, isTail_eq_false (by omega) (by omega), ?_⟩
        simp only [List.mem_cons, List.not_mem_nil, or_false, forall_eq_or_imp, forall_eq, follows,
          and_self]

/-- Within a character stand the bytes that follow its first one. -/
theorem isTail_getElem?_utf8EncodeChar (inside : limit < c.utf8Size) :
    (String.utf8EncodeChar c)[limit]?.any isTail = decide (0 < limit) := by
  obtain ⟨first, others, bytes, leads, follow⟩ := exists_utf8EncodeChar c
  rw [← String.length_utf8EncodeChar, bytes] at inside
  rw [bytes]
  cases limit with
  | zero => simpa using leads
  | succ place =>
    have there : place < others.length := Nat.lt_of_succ_lt_succ inside
    rw [List.getElem?_cons_succ, List.getElem?_eq_getElem there, Option.any_some,
      follow _ (List.getElem_mem there)]
    exact (decide_eq_true (Nat.succ_pos place)).symm

/-- A limit lies inside a character just when the byte behind it follows another. -/
theorem straddled_iff (limit : Nat) (chars : List Char) :
    Straddled limit chars ↔
      (chars.flatMap String.utf8EncodeChar)[limit]?.any isTail = true := by
  induction chars generalizing limit with
  | nil => simp [not_straddled_nil]
  | cons c chars ih =>
    rw [List.flatMap_cons]
    by_cases inside : limit < c.utf8Size
    · rw [straddled_cons_of_lt inside, List.getElem?_append_left
        (by rwa [String.length_utf8EncodeChar]), isTail_getElem?_utf8EncodeChar inside,
        decide_eq_true_eq]
    · have fits := Nat.le_of_not_lt inside
      rw [straddled_cons_of_le fits, List.getElem?_append_right
        (by rwa [String.length_utf8EncodeChar]), String.length_utf8EncodeChar, ih]

instance (limit : Nat) (chars : List Char) : Decidable (Straddled limit chars) :=
  decidable_of_iff _ (straddled_iff limit chars).symm

end SelfCheck.Text
