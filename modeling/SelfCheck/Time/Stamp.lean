import SelfCheck.Text.Numeral

/-! Points in time, the calendar, and the date format of the wire.

A point in time is a number of nanoseconds since the start of 1970. The calendar is the Gregorian
one for all years.
-/

set_option autoImplicit false

namespace SelfCheck.Time

/-- Nanoseconds since the start of 1970. -/
abbrev Moment := Int

def Moment.ofSeconds (seconds : Int) : Moment := seconds * 1000000000

def Moment.seconds (moment : Moment) : Int := moment / 1000000000

def Moment.nanos (moment : Moment) : Nat := (moment % 1000000000).toNat

/-- A day of the calendar. -/
structure Date where
  year : Int
  month : Nat
  day : Nat
  deriving DecidableEq, Repr

/-- The day a number of days after the start of 1970. Years are counted from March, so that the
leap day is the last one; 400 of them have 146097 days. -/
def Date.ofDays (days : Int) : Date :=
  let shifted := days + 719468
  let era := shifted / 146097
  let inEra := (shifted % 146097).toNat
  let yearOfEra := (inEra - inEra / 1460 + inEra / 36524 - inEra / 146096) / 365
  let dayOfYear := inEra - (365 * yearOfEra + yearOfEra / 4 - yearOfEra / 100)
  let fromMarch := (5 * dayOfYear + 2) / 153
  let day := dayOfYear - (153 * fromMarch + 2) / 5 + 1
  let month := if fromMarch < 10 then fromMarch + 3 else fromMarch - 9
  let year := (yearOfEra : Int) + era * 400 + (if month ≤ 2 then 1 else 0)
  ⟨year, month, day⟩

/-- The number of days from the start of 1970 to a day. -/
def Date.toDays (date : Date) : Int :=
  let year := if date.month ≤ 2 then date.year - 1 else date.year
  let era := year / 400
  let yearOfEra := year % 400
  let fromMarch : Int := (date.month + 9) % 12
  let dayOfYear := (153 * fromMarch + 2) / 5 + date.day - 1
  era * 146097 + (yearOfEra * 365 + yearOfEra / 4 - yearOfEra / 100 + dayOfYear) - 719468

def padded (width n : Nat) : String := Text.padStart width '0' (toString n)

/-- Four digits; a year that needs more, or one before the year zero, has a sign. -/
def yearText (year : Int) : String :=
  match year with
  | .ofNat n => if n ≤ 9999 then padded 4 n else "+" ++ padded 4 n
  | .negSucc n => "-" ++ padded 4 (n + 1)

/-- A second of the Unix clock as date, blank zone and time of day, `offset` seconds east. -/
def stampIn (offset : Int) (second : Int) : String :=
  let here := second + offset
  let date := Date.ofDays (here / 86400)
  let rest := (here % 86400).toNat
  yearText date.year ++ padded 2 date.month ++ padded 2 date.day ++ "    " ++
    padded 2 (rest / 3600) ++ padded 2 (rest / 60 % 60) ++ padded 2 (rest % 60)

/-- What a clock shows that is set some seconds east, as the moment at which the Unix clock shows the
same. -/
def Moment.east (moment : Moment) (offset : Int) : Moment := moment + Moment.ofSeconds offset

/-- The stamp of what a clock shows. -/
def stamp (shown : Moment) : String := stampIn 0 (Moment.seconds shown)

theorem stamp_east (moment : Moment) (offset : Int) :
    stamp (moment.east offset) = stampIn offset (Moment.seconds moment) := by
  have shifted : Moment.seconds (moment.east offset) = Moment.seconds moment + offset :=
    Int.add_mul_ediv_right moment offset (by decide)
  rw [stamp, stampIn, stampIn, shifted, Int.add_zero]

end SelfCheck.Time
