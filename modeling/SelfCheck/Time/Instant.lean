import SelfCheck.Time.Stamp

/-! Points in time as the platform writes them: date, time of day and zone. -/

set_option autoImplicit false

namespace SelfCheck.Time

/-- A number of exactly `width` digits. -/
def digits? (width : Nat) (cs : List Char) : Option (Nat × List Char) :=
  let front := cs.take width
  if front.length = width && front.all Char.isDigit then
    some (Text.decimalValue 0 front, cs.drop width)
  else none

def isLeapYear (year : Nat) : Bool := year % 4 = 0 && (year % 100 ≠ 0 || year % 400 = 0)

def monthLength (year month : Nat) : Nat :=
  match month with
  | 2 => if isLeapYear year then 29 else 28
  | 4 | 6 | 9 | 11 => 30
  | _ => 31

def readDate? (cs : List Char) : Option (Date × List Char) := do
  let (year, cs) ← digits? 4 cs
  let '-' :: cs := cs | none
  let (month, cs) ← digits? 2 cs
  let '-' :: cs := cs | none
  let (day, cs) ← digits? 2 cs
  if 1 ≤ month && month ≤ 12 && 1 ≤ day && day ≤ monthLength year month then
    some (⟨year, month, day⟩, cs)
  else none

/-- Nanoseconds of a fraction; what is finer does not count. -/
def readFraction? (cs : List Char) : Option (Nat × List Char) :=
  match cs with
  | '.' :: rest =>
    let (digits, rest) := rest.span Char.isDigit
    if digits.isEmpty then none
    else
      let kept := digits.take 9
      some (Text.decimalValue 0 kept * Nat.pow 10 (9 - kept.length), rest)
  | _ => some (0, cs)

/-- Seconds east, to the end. -/
def readZone? : List Char → Option Int
  | ['Z'] | ['z'] => some 0
  | mark :: cs =>
    if mark = '+' || mark = '-' then do
      let (hour, cs) ← digits? 2 cs
      let ':' :: cs := cs | none
      let (minute, cs) ← digits? 2 cs
      if cs.isEmpty && hour ≤ 23 && minute ≤ 59 then
        let offset : Int := hour * 3600 + minute * 60
        some (if mark = '+' then offset else -offset)
      else none
    else none
  | [] => none

/-- The point in time that a text names. A minute may have a leap second. -/
def readInstant? (text : String) : Option Moment := do
  let (date, cs) ← readDate? text.toList
  let mark :: cs := cs | none
  if mark ≠ 'T' && mark ≠ 't' && mark ≠ ' ' then none
  let (hour, cs) ← digits? 2 cs
  let ':' :: cs := cs | none
  let (minute, cs) ← digits? 2 cs
  let ':' :: cs := cs | none
  let (second, cs) ← digits? 2 cs
  let (nanos, cs) ← readFraction? cs
  let offset ← readZone? cs
  if 23 < hour || 59 < minute || 60 < second then none
  let seconds : Int := date.toDays * 86400 + hour * 3600 + minute * 60 + second - offset
  some (Moment.ofSeconds seconds + nanos)

end SelfCheck.Time
