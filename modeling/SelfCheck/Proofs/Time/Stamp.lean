import SelfCheck.Proofs.Text.Numeral
import SelfCheck.Time.Stamp

/-! The shape of a stamp.

As long as the year has four digits, every part of a stamp fits its column: eight digits of the day,
four blanks and six digits of the time of day.
-/

set_option autoImplicit false

namespace SelfCheck.Time

/-- The day of a second of the Unix clock, `offset` seconds east. -/
def dateIn (offset second : Int) : Date := Date.ofDays ((second + offset) / 86400)

/-- The years that stamps have four digits for. -/
def Date.FourDigits (date : Date) : Prop := 0 ≤ date.year ∧ date.year ≤ 9999

instance (date : Date) : Decidable date.FourDigits :=
  inferInstanceAs (Decidable (0 ≤ date.year ∧ date.year ≤ 9999))

theorem Date.ofDays_month (days : Int) :
    1 ≤ (Date.ofDays days).month ∧ (Date.ofDays days).month ≤ 12 := by
  simp only [Date.ofDays]
  have inEra : ((days + 719468) % 146097).toNat < 146097 := by omega
  generalize ((days + 719468) % 146097).toNat = day at inEra
  split <;> omega

theorem Date.ofDays_day (days : Int) :
    1 ≤ (Date.ofDays days).day ∧ (Date.ofDays days).day ≤ 31 := by
  simp only [Date.ofDays]
  have inEra : ((days + 719468) % 146097).toNat < 146097 := by omega
  generalize ((days + 719468) % 146097).toNat = day at inEra
  omega

theorem column_padded {width : Nat} (wide : 0 < width) (n : Nat) :
    Text.Column width n (padded width n) := by
  rw [padded, Nat.toString_eq_ofList_toDigits]
  exact Text.column_padStart wide n

theorem isDigit_of_mem_padded {width n : Nat} (wide : 0 < width) {c : Char}
    (member : c ∈ (padded width n).toList) : c.isDigit = true :=
  (column_padded wide n).digits c member

/-- Stamps are made of digits, blanks and, in front of some years, a sign. -/
theorem mem_stamp {moment : Moment} {c : Char} (member : c ∈ (stamp moment).toList) :
    c.isDigit = true ∨ c ∈ [' ', '+', '-'] := by
  have year (year : Int) (member : c ∈ (yearText year).toList) :
      c.isDigit = true ∨ c ∈ [' ', '+', '-'] := by
    cases year with
    | ofNat n =>
      unfold yearText at member
      dsimp only at member
      split at member
      · exact .inl (isDigit_of_mem_padded (by decide) member)
      · rw [String.toList_append, List.mem_append] at member
        exact member.symm.imp (isDigit_of_mem_padded (by decide)) fun sign => by simp_all
    | negSucc n =>
      rw [yearText, String.toList_append, List.mem_append] at member
      exact member.symm.imp (isDigit_of_mem_padded (by decide)) fun sign => by simp_all
  simp only [stamp, stampIn, String.toList_append, List.mem_append, or_assoc] at member
  rcases member with inYear | digit | digit | blank | digit | digit | digit
  · exact year _ inYear
  · exact .inl (isDigit_of_mem_padded (by decide) digit)
  · exact .inl (isDigit_of_mem_padded (by decide) digit)
  · exact .inr (by simp_all)
  · exact .inl (isDigit_of_mem_padded (by decide) digit)
  · exact .inl (isDigit_of_mem_padded (by decide) digit)
  · exact .inl (isDigit_of_mem_padded (by decide) digit)

/-- A character that is none of these is in no stamp. -/
theorem not_mem_stamp {c : Char} (other : c.isDigit = false ∧ c ∉ [' ', '+', '-'])
    (moment : Moment) : c ∉ (stamp moment).toList := by
  intro member
  rcases mem_stamp member with digit | sign
  · rw [other.1] at digit
    cases digit
  · exact other.2 sign

theorem yearText_of_fourDigits {date : Date} (year : date.FourDigits) :
    yearText date.year = padded 4 date.year.toNat := by
  obtain ⟨first, last⟩ := year
  obtain ⟨n, same⟩ := Int.eq_ofNat_of_zero_le first
  have small : n ≤ 9999 := by omega
  rw [same]
  exact if_pos small

/-- Year, month and day as one number. -/
def Date.number (date : Date) : Nat := date.year.toNat * 10000 + date.month * 100 + date.day

/-- Hour, minute and second of a second of the day as one number. -/
def clockNumber (second : Nat) : Nat :=
  second / 3600 * 10000 + second / 60 % 60 * 100 + second % 60

/-- The text of a day with four digits for its year. -/
theorem Date.column {date : Date} (year : date.FourDigits) (month : date.month ≤ 12)
    (day : date.day ≤ 31) :
    Text.Column 8 date.number
      (yearText date.year ++ padded 2 date.month ++ padded 2 date.day) := by
  have yearMonth := (column_padded (show 0 < 4 by decide) date.year.toNat).append
    (column_padded (show 0 < 2 by decide) date.month) (show date.month < 100 by omega)
  have whole := yearMonth.append (column_padded (show 0 < 2 by decide) date.day)
    (show date.day < 100 by omega)
  have number : (date.year.toNat * 100 + date.month) * 100 + date.day = date.number := by
    rw [Date.number]
    omega
  rw [yearText_of_fourDigits year]
  exact number ▸ whole

theorem clock_column (second : Nat) :
    Text.Column 6 (clockNumber second)
      (padded 2 (second / 3600) ++ padded 2 (second / 60 % 60) ++ padded 2 (second % 60)) := by
  have hourMinute := (column_padded (show 0 < 2 by decide) (second / 3600)).append
    (column_padded (show 0 < 2 by decide) (second / 60 % 60)) (show _ < 100 by omega)
  have whole := hourMinute.append (column_padded (show 0 < 2 by decide) (second % 60))
    (show _ < 100 by omega)
  have number : (second / 3600 * 100 + second / 60 % 60) * 100 + second % 60 =
      clockNumber second := by
    rw [clockNumber]
    omega
  exact number ▸ whole

/-- A stamp is eight digits of the day, four blanks and six digits of the time of day. -/
theorem stampIn_columns {offset second : Int} (year : (dateIn offset second).FourDigits) :
    ∃ day time, stampIn offset second = day ++ "    " ++ time ∧
      Text.Column 8 (dateIn offset second).number day ∧
      Text.Column 6 (clockNumber ((second + offset) % 86400).toNat) time := by
  have month := (Date.ofDays_month ((second + offset) / 86400)).2
  have day := (Date.ofDays_day ((second + offset) / 86400)).2
  refine ⟨_, _, ?_, Date.column year month day, clock_column _⟩
  simp only [stampIn, dateIn, String.append_assoc]

theorem stampIn_length {offset second : Int} (year : (dateIn offset second).FourDigits) :
    (stampIn offset second).length = 18 := by
  obtain ⟨day, time, stamped, dayColumn, timeColumn⟩ := stampIn_columns year
  have month := (Date.ofDays_month ((second + offset) / 86400)).2
  have dayOfMonth := (Date.ofDays_day ((second + offset) / 86400)).2
  have dayFits : (dateIn offset second).number < 100000000 := by
    obtain ⟨-, last⟩ := year
    simp only [Date.number, dateIn] at last ⊢
    omega
  have timeFits : clockNumber ((second + offset) % 86400).toNat < 1000000 := by
    rw [clockNumber]
    omega
  have blanks : "    ".length = 4 := rfl
  rw [stamped, String.length_append, String.length_append, dayColumn.length_eq_iff.mpr dayFits,
    timeColumn.length_eq_iff.mpr timeFits, blanks]

/-- The day that a clock shows. -/
def today (shown : Moment) : Date := dateIn 0 (Moment.seconds shown)

theorem stamp_length {now : Moment} (year : (today now).FourDigits) : (stamp now).length = 18 :=
  stampIn_length year

end SelfCheck.Time
