import SelfCheck.Text.Utf8

/-! ASCII characters in UTF-8.

Each is one byte, and that byte is part of nothing else. So a carriage return stands in a text just
when its byte stands among the bytes of the text, and one that is read from bytes has been there.
-/

set_option autoImplicit false

namespace SelfCheck.Text

/-- A text without a carriage return. -/
def Unbroken (s : String) : Prop := '\r' ∉ s.toList

instance (s : String) : Decidable (Unbroken s) :=
  inferInstanceAs (Decidable ('\r' ∉ s.toList))

theorem unbroken_append {first second : String} :
    Unbroken (first ++ second) ↔ Unbroken first ∧ Unbroken second := by
  simp [Unbroken]

theorem unbroken_empty : Unbroken "" := by decide

/-- Letters and digits are ASCII, and none is a control character. -/
theorem isAlphanum_range {c : Char} (sign : c.isAlphanum = true) :
    48 ≤ c.toNat ∧ c.toNat < 128 := by
  delta Char.isAlphanum Char.isAlpha Char.isUpper Char.isLower Char.isDigit at sign
  simp only [Bool.or_eq_true, Bool.and_eq_true, decide_eq_true_eq, ge_iff_le,
    UInt32.le_iff_toNat_le] at sign
  change (65 ≤ c.toNat ∧ c.toNat ≤ 90 ∨ 97 ≤ c.toNat ∧ c.toNat ≤ 122) ∨
    48 ≤ c.toNat ∧ c.toNat ≤ 57 at sign
  omega

/-! Writing. -/

/-- The bytes of a character that is not ASCII are not ASCII either. -/
theorem utf8EncodeChar_high {c : Char} (high : 128 ≤ c.toNat) {b : UInt8}
    (member : b ∈ String.utf8EncodeChar c) : 128 ≤ b.toNat := by
  unfold String.utf8EncodeChar at member
  unfold Char.toNat at high
  generalize c.val.toNat = v at member high
  dsimp only at member
  rw [if_neg (by omega)] at member
  -- Two, three or four bytes, each a mark of 128 or more and six bits at most.
  have above {n : Nat} (low : 128 ≤ n) (byte : n < 256) : 128 ≤ (UInt8.ofNat n).toNat := by
    rwa [UInt8.toNat_ofNat', Nat.mod_eq_of_lt byte]
  split at member
  · simp only [List.mem_cons, List.not_mem_nil, or_false] at member
    rcases member with rfl | rfl <;> exact above (by omega) (by omega)
  · split at member
    · simp only [List.mem_cons, List.not_mem_nil, or_false] at member
      rcases member with rfl | rfl | rfl <;> exact above (by omega) (by omega)
    · simp only [List.mem_cons, List.not_mem_nil, or_false] at member
      rcases member with rfl | rfl | rfl | rfl <;> exact above (by omega) (by omega)

theorem utf8EncodeChar_ascii {c : Char} (ascii : c.toNat < 128) :
    String.utf8EncodeChar c = [UInt8.ofNat c.toNat] := by
  unfold String.utf8EncodeChar
  unfold Char.toNat at ascii ⊢
  dsimp only
  rw [if_pos (by omega)]

/-- The byte of an ASCII character stands for that character and for no other. -/
theorem mem_bytesOf {c : Char} (ascii : c.toNat < 128) {s : String} :
    UInt8.ofNat c.toNat ∈ bytesOf s ↔ c ∈ s.toList := by
  have own : (UInt8.ofNat c.toNat).toNat = c.toNat := by
    rw [UInt8.toNat_ofNat', Nat.mod_eq_of_lt (by omega)]
  unfold bytesOf
  rw [List.mem_flatMap]
  constructor
  · rintro ⟨other, member, inside⟩
    by_cases low : other.toNat < 128
    · rw [utf8EncodeChar_ascii low, List.mem_singleton] at inside
      have same := congrArg UInt8.toNat inside
      rw [own, UInt8.toNat_ofNat', Nat.mod_eq_of_lt (by omega)] at same
      rw [← Char.ofNat_toNat c, same, Char.ofNat_toNat]
      exact member
    · -- The byte would be 128 or more, as every byte of such a character.
      have high := utf8EncodeChar_high (Nat.le_of_not_lt low) inside
      omega
  · intro member
    exact ⟨c, member, by simp [utf8EncodeChar_ascii ascii]⟩

theorem not_mem_bytesOf {s : String} : 13 ∉ bytesOf s ↔ Unbroken s :=
  not_congr (mem_bytesOf (c := '\r') (by decide))

/-! Reading. -/

theorem toNat_charOfNat {n : Nat} (valid : n.isValidChar) : (Char.ofNat n).toNat = n := by
  unfold Char.ofNat
  rw [dif_pos valid]
  rfl

theorem toNat_charOfByte (b : UInt8) : (Char.ofNat b.toNat).toNat = b.toNat := by
  have byte := b.toNat_lt
  exact toNat_charOfNat (.inl (by omega))

theorem ofNat_ne_of_high {c : Char} (ascii : c.toNat < 128) {n : Nat} (high : 128 ≤ n)
    (valid : n.isValidChar) : Char.ofNat n ≠ c := by
  rintro rfl
  rw [toNat_charOfNat valid] at ascii
  omega

theorem tailBits_lt (b : UInt8) : tailBits b < 64 := Nat.mod_lt _ (by decide)

/-! What the bytes of a character say is not ASCII, and neither a surrogate nor too large. -/

theorem lead_pair {b b₁ : UInt8} (leads : lead b = .pair) :
    128 ≤ b.toNat % 32 * 64 + tailBits b₁ ∧ (b.toNat % 32 * 64 + tailBits b₁).isValidChar := by
  have bits := tailBits_lt b₁
  unfold lead at leads
  simp only [UInt8.lt_iff_toNat_lt, UInt8.reduceToNat] at leads
  have byte := b.toNat_lt
  have wide : 2 ≤ b.toNat % 32 := by grind
  exact ⟨by omega, .inl (by omega)⟩

theorem lead_triple {b b₁ b₂ low high : UInt8} (leads : lead b = .triple low high)
    (inside : (low ≤ b₁ && b₁ ≤ high) = true) :
    128 ≤ (b.toNat % 16 * 64 + tailBits b₁) * 64 + tailBits b₂ ∧
      ((b.toNat % 16 * 64 + tailBits b₁) * 64 + tailBits b₂).isValidChar := by
  have bits := tailBits_lt b₂
  have front : 2 ≤ b.toNat % 16 * 64 + tailBits b₁ ∧ b.toNat % 16 * 64 + tailBits b₁ < 1024 ∧
      (b.toNat % 16 * 64 + tailBits b₁ < 864 ∨ 895 < b.toNat % 16 * 64 + tailBits b₁) := by
    unfold tailBits
    simp only [Bool.and_eq_true, decide_eq_true_eq, UInt8.le_iff_toNat_le] at inside
    unfold lead at leads
    simp only [UInt8.lt_iff_toNat_lt, ← UInt8.toNat_inj, UInt8.reduceToNat] at leads
    repeat' split at leads
    all_goals cases leads
    all_goals simp only [UInt8.reduceToNat] at inside
    all_goals omega
  obtain ⟨wide, small, proper⟩ := front
  refine ⟨by omega, ?_⟩
  rcases proper with below | above
  · exact .inl (by omega)
  · exact .inr ⟨by omega, by omega⟩

theorem lead_quadruple {b b₁ b₂ b₃ low high : UInt8} (leads : lead b = .quadruple low high)
    (inside : (low ≤ b₁ && b₁ ≤ high) = true) :
    128 ≤ ((b.toNat % 8 * 64 + tailBits b₁) * 64 + tailBits b₂) * 64 + tailBits b₃ ∧
      (((b.toNat % 8 * 64 + tailBits b₁) * 64 + tailBits b₂) * 64 + tailBits b₃).isValidChar := by
  have bits := tailBits_lt b₂
  have bits' := tailBits_lt b₃
  have front : 16 ≤ b.toNat % 8 * 64 + tailBits b₁ ∧ b.toNat % 8 * 64 + tailBits b₁ < 272 := by
    unfold tailBits
    simp only [Bool.and_eq_true, decide_eq_true_eq, UInt8.le_iff_toNat_le] at inside
    unfold lead at leads
    simp only [UInt8.lt_iff_toNat_lt, ← UInt8.toNat_inj, UInt8.reduceToNat] at leads
    repeat' split at leads
    all_goals cases leads
    all_goals simp only [UInt8.reduceToNat] at inside
    all_goals omega
  obtain ⟨wide, small⟩ := front
  exact ⟨by omega, .inr ⟨by omega, by omega⟩⟩

/-- An ASCII character that is read has its byte there. -/
theorem mem_of_mem_decodeChars {c : Char} (ascii : c.toNat < 128) {bytes : List UInt8}
    (member : c ∈ decodeChars bytes) : UInt8.ofNat c.toNat ∈ bytes := by
  have alien : c ≠ replacement := by
    rintro rfl
    revert ascii
    decide
  have wide {n : Nat} (high : 128 ≤ n ∧ n.isValidChar) : c ≠ Char.ofNat n :=
    (ofNat_ne_of_high ascii high.1 high.2).symm
  fun_induction decodeChars bytes
  all_goals simp only [List.mem_cons, List.not_mem_nil, or_false, alien, false_or] at member
  case case3 b r leads ih =>
    rcases member with rfl | member
    · rw [toNat_charOfByte, UInt8.ofNat_toNat]
      exact List.mem_cons_self
    · exact List.mem_cons_of_mem _ (ih member)
  case case5 leads b₁ r₁ tail ih =>
    rcases member with rfl | member
    · exact absurd rfl (wide (lead_pair leads))
    · exact List.mem_cons_of_mem _ (List.mem_cons_of_mem _ (ih member))
  case case9 leads b₁ inside b₂ r₂ tail ih =>
    rcases member with rfl | member
    · exact absurd rfl (wide (lead_triple leads inside))
    · simp [ih member]
  case case15 leads b₁ inside b₂ tail b₃ r₃ tail' ih =>
    rcases member with rfl | member
    · exact absurd rfl (wide (lead_quadruple leads inside))
    · simp [ih member]
  -- Bytes that do not make a character are passed over.
  case case2 ih | case6 ih | case11 ih | case18 ih =>
    exact List.mem_cons_of_mem _ (ih member)
  case case10 ih | case17 ih =>
    exact List.mem_cons_of_mem _ (List.mem_cons_of_mem _ (ih member))
  case case16 ih =>
    exact List.mem_cons_of_mem _ (List.mem_cons_of_mem _ (List.mem_cons_of_mem _ (ih member)))

/-- What is read from bytes without an ASCII character's byte is without that character. -/
theorem not_mem_decode_of_absent {c : Char} (ascii : c.toNat < 128) {bytes : List UInt8}
    (absent : UInt8.ofNat c.toNat ∉ bytes) : c ∉ (decode bytes).toList := by
  intro member
  rw [decode, String.toList_ofList] at member
  exact absent (mem_of_mem_decodeChars ascii member)

theorem unbroken_decode {bytes : List UInt8} (absent : 13 ∉ bytes) : Unbroken (decode bytes) :=
  not_mem_decode_of_absent (c := '\r') (by decide) absent

end SelfCheck.Text
