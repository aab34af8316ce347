import SelfCheck.Proofs.Text.Utf8

/-! Texts are read back from their bytes, whatever stands behind them. -/

set_option autoImplicit false

namespace SelfCheck.Text

/-! The bytes of one character, by what they are made of. -/

theorem isTail_ofNat : ∀ n < 64,
    isTail (UInt8.ofNat (n + 128)) = true ∧ tailBits (UInt8.ofNat (n + 128)) = n := by
  decide

theorem lead_ofNat_pair : ∀ n < 32, 2 ≤ n →
    lead (UInt8.ofNat (n + 192)) = .pair ∧ (UInt8.ofNat (n + 192)).toNat % 32 = n := by
  decide

theorem lead_ofNat_triple : ∀ n < 16,
    lead (UInt8.ofNat (n + 224)) =
        .triple (if n = 0 then 0xA0 else 0x80) (if n = 13 then 0x9F else 0xBF) ∧
      (UInt8.ofNat (n + 224)).toNat % 16 = n := by
  decide

theorem lead_ofNat_quadruple : ∀ n < 5,
    lead (UInt8.ofNat (n + 240)) =
        .quadruple (if n = 0 then 0x90 else 0x80) (if n = 4 then 0x8F else 0xBF) ∧
      (UInt8.ofNat (n + 240)).toNat % 8 = n := by
  decide

theorem lead_ascii {b : UInt8} (ascii : b.toNat < 128) : lead b = .ascii := by
  unfold lead
  rw [if_pos (UInt8.lt_iff_toNat_lt.mpr ascii)]

/-- A following byte between two bounds. -/
theorem between_ofNat {n : Nat} {low high : UInt8} (fits : n < 64) (above : low.toNat ≤ n + 128)
    (below : n + 128 ≤ high.toNat) :
    (low ≤ UInt8.ofNat (n + 128) && UInt8.ofNat (n + 128) ≤ high) = true := by
  simp only [UInt8.le_iff_toNat_le, UInt8.toNat_ofNat', Bool.and_eq_true, decide_eq_true_eq]
  rw [Nat.mod_eq_of_lt (by omega)]
  exact ⟨above, below⟩

/-! Reading one character in front of other bytes. -/

theorem decodeChars_one {n : Nat} (ascii : n < 128) (rest : List UInt8) :
    decodeChars (UInt8.ofNat n :: rest) = Char.ofNat n :: decodeChars rest := by
  have byte : (UInt8.ofNat n).toNat = n := by
    rw [UInt8.toNat_ofNat', Nat.mod_eq_of_lt (by omega)]
  rw [decodeChars.eq_def]
  simp only [lead_ascii (by rw [byte]; exact ascii), byte]

theorem decodeChars_two {a b : Nat} (wide : 2 ≤ a) (first : a < 32) (second : b < 64)
    (rest : List UInt8) :
    decodeChars (UInt8.ofNat (a + 192) :: UInt8.ofNat (b + 128) :: rest) =
      Char.ofNat (a * 64 + b) :: decodeChars rest := by
  obtain ⟨leads, value⟩ := lead_ofNat_pair a first wide
  obtain ⟨follows, bits⟩ := isTail_ofNat b second
  rw [decodeChars.eq_def]
  simp only [leads, value, follows, bits, ↓reduceIte]

theorem decodeChars_three {a b c : Nat} (first : a < 16) (second : b < 64) (third : c < 64)
    (wide : a = 0 → 32 ≤ b) (proper : a = 13 → b < 32) (rest : List UInt8) :
    decodeChars (UInt8.ofNat (a + 224) :: UInt8.ofNat (b + 128) :: UInt8.ofNat (c + 128) :: rest) =
      Char.ofNat ((a * 64 + b) * 64 + c) :: decodeChars rest := by
  obtain ⟨leads, value⟩ := lead_ofNat_triple a first
  obtain ⟨-, bits⟩ := isTail_ofNat b second
  obtain ⟨follows, bits'⟩ := isTail_ofNat c third
  have inside : ((if a = 0 then 0xA0 else 0x80 : UInt8) ≤ UInt8.ofNat (b + 128) &&
      UInt8.ofNat (b + 128) ≤ (if a = 13 then 0x9F else 0xBF : UInt8)) = true := by
    apply between_ofNat second <;> split <;> simp only [UInt8.reduceToNat] <;> omega
  rw [decodeChars.eq_def]
  simp only [leads, value, inside, bits, follows, bits', ↓reduceIte]

theorem decodeChars_four {a b c d : Nat} (first : a < 5) (second : b < 64) (third : c < 64)
    (fourth : d < 64) (wide : a = 0 → 16 ≤ b) (bounded : a = 4 → b < 16) (rest : List UInt8) :
    decodeChars (UInt8.ofNat (a + 240) :: UInt8.ofNat (b + 128) :: UInt8.ofNat (c + 128) ::
        UInt8.ofNat (d + 128) :: rest) =
      Char.ofNat (((a * 64 + b) * 64 + c) * 64 + d) :: decodeChars rest := by
  obtain ⟨leads, value⟩ := lead_ofNat_quadruple a first
  obtain ⟨-, bits⟩ := isTail_ofNat b second
  obtain ⟨follows, bits'⟩ := isTail_ofNat c third
  obtain ⟨follows', bits''⟩ := isTail_ofNat d fourth
  have inside : ((if a = 0 then 0x90 else 0x80 : UInt8) ≤ UInt8.ofNat (b + 128) &&
      UInt8.ofNat (b + 128) ≤ (if a = 4 then 0x8F else 0xBF : UInt8)) = true := by
    apply between_ofNat second <;> split <;> simp only [UInt8.reduceToNat] <;> omega
  rw [decodeChars.eq_def]
  simp only [leads, value, inside, bits, follows, bits', follows', bits'', ↓reduceIte]

/-- A character stands in front of what is read from the bytes behind its own. -/
theorem decodeChars_utf8EncodeChar (c : Char) (rest : List UInt8) :
    decodeChars (String.utf8EncodeChar c ++ rest) = c :: decodeChars rest := by
  have number : Char.ofNat c.val.toNat = c := Char.ofNat_toNat c
  have valid : c.val.toNat < 55296 ∨ 57343 < c.val.toNat ∧ c.val.toNat < 1114112 := c.valid
  unfold String.utf8EncodeChar
  generalize c.val.toNat = n at number valid
  subst number
  dsimp only
  -- The bounds of each length leave out what a shorter one says, and the surrogates.
  split
  · exact decodeChars_one (by omega) rest
  · split
    · have parts : n / 64 % 32 * 64 + n % 64 = n := by omega
      have reads := decodeChars_two (a := n / 64 % 32) (b := n % 64) (by omega) (by omega)
        (by omega) rest
      rwa [parts] at reads
    · split
      · have parts : (n / 4096 % 16 * 64 + n / 64 % 64) * 64 + n % 64 = n := by omega
        have reads := decodeChars_three (a := n / 4096 % 16) (b := n / 64 % 64) (c := n % 64)
          (by omega) (by omega) (by omega) (by omega) (by omega) rest
        rwa [parts] at reads
      · have parts : ((n / 262144 % 8 * 64 + n / 4096 % 64) * 64 + n / 64 % 64) * 64 + n % 64 =
            n := by omega
        have reads := decodeChars_four (a := n / 262144 % 8) (b := n / 4096 % 64)
          (c := n / 64 % 64) (d := n % 64) (by omega) (by omega) (by omega) (by omega)
          (by omega) (by omega) rest
        rwa [parts] at reads

theorem decodeChars_bytesOf (s : String) : decodeChars (bytesOf s) = s.toList := by
  unfold bytesOf
  induction s.toList with
  | nil => rfl
  | cons c chars ih => rw [List.flatMap_cons, decodeChars_utf8EncodeChar, ih]

/-- A text is read back from its bytes. -/
theorem decode_bytesOf (s : String) : decode (bytesOf s) = s := by
  rw [decode, decodeChars_bytesOf, String.ofList_toList]

theorem bytesOf_inj {first second : String} : bytesOf first = bytesOf second ↔ first = second := by
  refine ⟨fun same => ?_, congrArg bytesOf⟩
  rw [← decode_bytesOf first, same, decode_bytesOf]

/-! ASCII bytes are a character each. -/

theorem decodeChars_of_ascii {bytes : List UInt8} (ascii : ∀ b ∈ bytes, b < 128) :
    decodeChars bytes = bytes.map fun b => Char.ofNat b.toNat := by
  induction bytes with
  | nil => rfl
  | cons b bytes ih =>
    obtain ⟨low, others⟩ := List.forall_mem_cons.mp ascii
    have reads := decodeChars_one (UInt8.lt_iff_toNat_lt.mp low) bytes
    rw [UInt8.ofNat_toNat] at reads
    rw [reads, ih others, List.map_cons]

theorem bytesOf_decode {bytes : List UInt8} (ascii : ∀ b ∈ bytes, b < 128) :
    bytesOf (decode bytes) = bytes := by
  rw [bytesOf, decode, String.toList_ofList, decodeChars_of_ascii ascii, List.flatMap_map]
  induction bytes with
  | nil => rfl
  | cons b bytes ih =>
    obtain ⟨low, others⟩ := List.forall_mem_cons.mp ascii
    have byte : String.utf8EncodeChar (Char.ofNat b.toNat) = [b] := by
      have small : (Char.ofNat b.toNat).toNat < 128 := by
        rw [toNat_charOfByte]
        exact UInt8.lt_iff_toNat_lt.mp low
      rw [utf8EncodeChar_ascii small, toNat_charOfByte, UInt8.ofNat_toNat]
    rw [List.flatMap_cons, byte, ih others, List.singleton_append]

theorem length_decode {bytes : List UInt8} (ascii : ∀ b ∈ bytes, b < 128) :
    (decode bytes).length = bytes.length := by
  rw [decode, String.length_ofList, decodeChars_of_ascii ascii, List.length_map]

theorem not_mem_decode {bytes : List UInt8} (ascii : ∀ b ∈ bytes, b < 128) {mark : UInt8}
    (absent : mark ∉ bytes) : Char.ofNat mark.toNat ∉ (decode bytes).toList := by
  rw [decode, String.toList_ofList, decodeChars_of_ascii ascii, List.mem_map]
  rintro ⟨b, member, same⟩
  have number := congrArg Char.toNat same
  rw [toNat_charOfByte, toNat_charOfByte] at number
  exact absent (UInt8.toNat_inj.mp number ▸ member)

/-- A character takes up a byte at least. -/
theorem length_decodeChars_le (bytes : List UInt8) :
    (decodeChars bytes).length ≤ bytes.length := by
  fun_induction decodeChars bytes <;> simp only [List.length_cons, List.length_nil] at * <;> omega

theorem decodeChars_cons_ne_nil {b : UInt8} {bytes : List UInt8} :
    decodeChars (b :: bytes) ≠ [] := by
  rw [decodeChars.eq_def]
  grind

theorem bytesOf_append (first second : String) :
    bytesOf (first ++ second) = bytesOf first ++ bytesOf second := by
  simp [bytesOf]

theorem length_bytesOf {s : String} (ascii : ∀ c ∈ s.toList, c.toNat < 128) :
    (bytesOf s).length = s.length := by
  rw [← String.length_toList]
  unfold bytesOf
  generalize s.toList = chars at ascii ⊢
  induction chars with
  | nil => rfl
  | cons c chars ih =>
    obtain ⟨own, others⟩ := List.forall_mem_cons.mp ascii
    rw [List.flatMap_cons, utf8EncodeChar_ascii own, List.singleton_append, List.length_cons,
      ih others, List.length_cons]

end SelfCheck.Text
