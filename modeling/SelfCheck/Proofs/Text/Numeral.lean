import SelfCheck.Text.Numeral

/-! Numbers that are read, and numbers in columns.

A number is filled up with zeros to the width of its column and never cut: the column has its width
exactly as long as the number fits.
-/

set_option autoImplicit false

namespace SelfCheck.Text

/-- How a number stands in a column of a width; what is wider has the digits of the number. -/
structure Column (width n : Nat) (s : String) : Prop where
  digits : ∀ c ∈ s.toList, c.isDigit = true
  value : decimalValue 0 s.toList = n
  filled : width ≤ s.length
  fits : ∀ {wide}, width ≤ wide → (s.length ≤ wide ↔ n < Nat.pow 10 wide)

theorem Column.length_eq_iff {width n : Nat} {s : String} (column : Column width n s) :
    s.length = width ↔ n < Nat.pow 10 width := by
  rw [← column.fits (Nat.le_refl width), Nat.le_antisymm_iff]
  exact and_iff_left column.filled

theorem decimalValue_eq (start : Nat) (cs : List Char) :
    decimalValue start cs = Nat.ofDigitChars 10 cs start := by
  rw [Nat.ofDigitChars_eq_foldl]
  simp only [decimalValue, digitValue, Nat.mul_comm]

/-- Digits, one or more, and the number they stand for. -/
structure Numeral (digits : List Char) (value : Nat) : Prop where
  written : digits ≠ []
  decimal : ∀ c ∈ digits, c.isDigit = true
  value : Nat.ofDigitChars 10 digits 0 = value

/-- A bounded number is read from its digits, after at most one plus sign. -/
theorem readBounded?_eq_some {limit value : Nat} {cs : List Char} :
    readBounded? limit cs = some value ↔
      ∃ digits, (cs = digits ∨ cs = '+' :: digits) ∧ Numeral digits value ∧ value ≤ limit := by
  have digits_read (digits : List Char) :
      (if digits.isEmpty || !digits.all Char.isDigit then none
        else if decimalValue 0 digits ≤ limit then some (decimalValue 0 digits) else none) =
          some value ↔ Numeral digits value ∧ value ≤ limit := by
    rw [decimalValue_eq]
    constructor
    · intro read
      split at read
      · cases read
      · next numeral =>
        split at read
        · next small =>
          cases read
          simp only [Bool.or_eq_true, List.isEmpty_iff, Bool.not_eq_true', not_or,
            Bool.not_eq_false, List.all_eq_true] at numeral
          exact ⟨⟨numeral.1, numeral.2, rfl⟩, small⟩
        · cases read
    · rintro ⟨⟨written, all, rfl⟩, small⟩
      have numeral : (digits.isEmpty || !digits.all Char.isDigit) = false := by
        simp [written, List.all_eq_true.mpr all]
      rw [numeral, if_neg Bool.false_ne_true, if_pos small]
  unfold readBounded?
  split
  · next rest =>
    refine (digits_read rest).trans ⟨fun read => ⟨rest, .inr rfl, read⟩, ?_⟩
    rintro ⟨digits, same | same, numeral⟩
    · -- A plus sign is no digit, so it cannot be the first of them.
      have plus := numeral.1.decimal '+' (by rw [← same]; exact List.mem_cons_self)
      cases plus
    · cases same
      exact numeral
  · next unsigned =>
    refine (digits_read cs).trans ⟨fun read => ⟨cs, .inl rfl, read⟩, ?_⟩
    rintro ⟨digits, rfl | same, numeral⟩
    · exact numeral
    · exact absurd same (unsigned digits)

theorem isDigit_of_mem_digits {n : Nat} {c : Char} (member : c ∈ Nat.toDigits 10 n) :
    c.isDigit = true :=
  Nat.isDigit_of_mem_toDigits (by decide) (by decide) member

/-- A number within the limit is read back from its digits. -/
theorem readBounded?_toDigits {limit n : Nat} (small : n ≤ limit) :
    readBounded? limit (Nat.toDigits 10 n) = some n :=
  readBounded?_eq_some.mpr ⟨_, .inl rfl,
    ⟨Nat.toDigits_ne_nil, fun _ => isDigit_of_mem_digits, Nat.ofDigitChars_ten_toDigits⟩, small⟩

theorem length_padStart (width : Nat) (fill : Char) (s : String) :
    (padStart width fill s).length = max width s.length := by
  simp only [padStart, String.length_ofList, List.length_append, List.length_replicate,
    String.length_toList]
  omega

/-- The digits of a number, after zeros up to a width, are that number in its column. -/
theorem column_padStart {width : Nat} (positive : 0 < width) (n : Nat) :
    Column width n (padStart width '0' (String.ofList (Nat.toDigits 10 n))) where
  digits := by
    intro c member
    rw [padStart, String.toList_ofList, String.toList_ofList, List.mem_append] at member
    rcases member with zero | digit
    · rw [List.eq_of_mem_replicate zero]
      rfl
    · exact isDigit_of_mem_digits digit
  value := by
    rw [padStart, String.toList_ofList, String.toList_ofList, decimalValue_eq,
      Nat.ofDigitChars_append, Nat.ofDigitChars_replicate_zero, Nat.mul_zero,
      Nat.ofDigitChars_ten_toDigits]
  filled := by
    rw [length_padStart]
    exact Nat.le_max_left ..
  fits := by
    intro wide within
    have digits : (Nat.toDigits 10 n).length ≤ wide ↔ n < Nat.pow 10 wide :=
      Nat.length_toDigits_le_iff (by decide) (Nat.lt_of_lt_of_le positive within)
    rw [length_padStart, String.length_ofList, ← digits]
    omega

/-- Two columns side by side are one, if the second number fits its own. -/
theorem Column.append {left right n m : Nat} {s t : String} (front : Column left n s)
    (back : Column right m t) (small : m < Nat.pow 10 right) :
    Column (left + right) (n * Nat.pow 10 right + m) (s ++ t) where
  digits := by
    intro c member
    rw [String.toList_append, List.mem_append] at member
    exact member.elim (front.digits c) (back.digits c)
  value := by
    have width : t.toList.length = right := by
      rw [String.length_toList, back.length_eq_iff.mpr small]
    have value : Nat.ofDigitChars 10 t.toList 0 = m := by rw [← decimalValue_eq, back.value]
    rw [String.toList_append, decimalValue_eq, Nat.ofDigitChars_append, ← decimalValue_eq 0,
      front.value, Nat.ofDigitChars_eq_ofDigitChars_zero, width, value, Nat.mul_comm]
    rfl
  filled := by
    rw [String.length_append]
    exact Nat.add_le_add front.filled back.filled
  fits := by
    intro wide within
    have power : Nat.pow 10 wide = Nat.pow 10 (wide - right) * Nat.pow 10 right := by
      have whole := Nat.pow_add 10 (wide - right) right
      rwa [Nat.sub_add_cancel (by omega)] at whole
    have room : n * Nat.pow 10 right + m < Nat.pow 10 (wide - right) * Nat.pow 10 right ↔
        n < Nat.pow 10 (wide - right) := by
      rw [← Nat.div_lt_iff_lt_mul (Nat.zero_lt_of_lt small), Nat.add_comm,
        Nat.add_mul_div_right m n (Nat.zero_lt_of_lt small), Nat.div_eq_of_lt small, Nat.zero_add]
    rw [String.length_append, back.length_eq_iff.mpr small, power, room,
      ← front.fits (show left ≤ wide - right by omega)]
    omega

end SelfCheck.Text
