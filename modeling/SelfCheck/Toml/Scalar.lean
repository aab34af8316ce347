import SelfCheck.Text.Blank
import SelfCheck.Text.Numeral
import SelfCheck.Tree

/-! TOML values that are written in one word: truth values, numbers, dates and times.

A date or a time stands for itself, in one normal spelling, under a name of its own.
-/

set_option autoImplicit false

namespace SelfCheck.Toml

/-! Numbers. Single underscores may stand between digits. -/

/-- Digits without the underscores between them. -/
def digits? (isDigit : Char → Bool) : List Char → Option (List Char)
  | [] => none
  | [c] => if isDigit c then some [c] else none
  | c :: '_' :: d :: rest =>
    if isDigit c && isDigit d then (digits? isDigit (d :: rest)).map (c :: ·) else none
  | c :: rest => if isDigit c then (digits? isDigit rest).map (c :: ·) else none

def isOctal (c : Char) : Bool := '0' ≤ c && c ≤ '7'

def isBinary (c : Char) : Bool := c = '0' || c = '1'

def radixValue (radix : Nat) (digits : List Char) : Nat :=
  digits.foldl (fun n c => n * radix + Text.hexValue c) 0

/-- The digits of a decimal number, which has no leading zeros. -/
def decimal? (cs : List Char) : Option (List Char) :=
  match digits? Char.isDigit cs with
  | some ('0' :: _ :: _) => none
  | digits => digits

/-- A sign in front of a number. -/
def sign (cs : List Char) : Bool × List Char :=
  match cs with
  | '+' :: rest => (false, rest)
  | '-' :: rest => (true, rest)
  | _ => (false, cs)

def wholeTree (negative : Bool) (magnitude : Nat) : Tree :=
  if negative then
    if magnitude ≤ Nat.pow 2 127 then .whole (-(magnitude : Int)) else .broken
  else if magnitude < Nat.pow 2 128 then .whole magnitude else .broken

/-- A number in a radix that its first letters name; without digits it stands for nothing. -/
def radixTree? (radix : Nat) (isDigit : Char → Bool) (cs : List Char) : Option Tree :=
  if cs.isEmpty then some .broken
  else (digits? isDigit cs).map fun ds => wholeTree false (radixValue radix ds)

/-- Whether the parts between underscores may be those of a whole number. Beside an underscore only
a hexadecimal digit stands, also where the number is decimal. -/
def arePartsOfWhole : List (List Char) → Bool
  | [] => false
  | first :: later =>
    !first.isEmpty && first.all Char.isDigit &&
      (first.head? ≠ some '0' || (first.length = 1 && later.isEmpty)) &&
      later.all (fun part => part.head?.any Text.isHexDigit && !part.any (".eE".toList.contains ·)) &&
      later.dropLast.all fun part => part.getLast?.any Text.isHexDigit

/-- A decimal number; one with other than decimal digits stands for nothing. -/
def decimalTree? (negative : Bool) (cs : List Char) : Option Tree :=
  let parts := Text.splitAt '_' cs
  if arePartsOfWhole parts then
    some (if parts.flatten.all Char.isDigit then wholeTree negative (radixValue 10 parts.flatten)
      else .broken)
  else none

def integer? (cs : List Char) : Option Tree :=
  match cs with
  | '0' :: 'x' :: rest => radixTree? 16 Text.isHexDigit rest
  | '0' :: 'o' :: rest => radixTree? 8 isOctal rest
  | '0' :: 'b' :: rest => radixTree? 2 isBinary rest
  | _ =>
    let (negative, rest) := sign cs
    decimalTree? negative rest

/-- The exponent behind its letter. -/
def exponent? (cs : List Char) : Option Int :=
  let (negative, rest) := sign cs
  (digits? Char.isDigit rest).map fun ds =>
    if negative then -(radixValue 10 ds : Int) else radixValue 10 ds

/-- The largest exponent that is computed with; beyond it a number is zero or too large. -/
def maxExponent : Nat := 100000

/-- The double nearest to `digits * 10 ^ exponent`; none when it is too large. -/
def double? (negative : Bool) (digits : Nat) (exponent : Int) : Option Float :=
  if digits ≠ 0 && exponent > maxExponent then none
  else
    let x := if digits = 0 || exponent < -maxExponent then 0.0
      else Float.ofScientific digits (exponent < 0) exponent.natAbs
    if x.isInf then none else some (if negative then -x else x)

def realTree : Option Float → Tree
  | some x => .real x
  | none => .broken

/-- A number with a fraction, an exponent, or both. -/
def float? (cs : List Char) : Option Tree := do
  let (negative, rest) := sign cs
  if rest = ['i', 'n', 'f'] then return .real (if negative then -1.0 / 0.0 else 1.0 / 0.0)
  if rest = ['n', 'a', 'n'] then return .real (0.0 / 0.0)
  let (mantissa, tail) := rest.span fun c => c ≠ 'e' && c ≠ 'E'
  let exponent ← match tail with
    | [] => some 0
    | _ :: tail => exponent? tail
  let (whole, tail) := mantissa.span (· ≠ '.')
  let whole ← decimal? whole
  let fraction ← match tail with
    | [] => some []
    | _ :: tail => digits? Char.isDigit tail
  return realTree
    (double? negative (radixValue 10 (whole ++ fraction)) (exponent - fraction.length))

/-! Dates and times. -/

/-- A number of exactly `width` digits. -/
def fixed? (width : Nat) (cs : List Char) : Option (Nat × List Char) :=
  let front := cs.take width
  if front.length = width && front.all Char.isDigit then
    some (radixValue 10 front, cs.drop width)
  else none

def isLeap (year : Nat) : Bool := year % 4 = 0 && (year % 100 ≠ 0 || year % 400 = 0)

def daysIn (year month : Nat) : Nat :=
  match month with
  | 2 => if isLeap year then 29 else 28
  | 4 | 6 | 9 | 11 => 30
  | _ => 31

/-- A day of the calendar, as it is written. -/
def date? (cs : List Char) : Option (String × List Char) := do
  let (year, cs) ← fixed? 4 cs
  let '-' :: cs := cs | none
  let (month, cs) ← fixed? 2 cs
  let '-' :: cs := cs | none
  let (day, cs) ← fixed? 2 cs
  if 1 ≤ month && month ≤ 12 && 1 ≤ day && day ≤ daysIn year month then
    some (Text.padStart 4 '0' (toString year) ++ "-" ++ Text.padStart 2 '0' (toString month) ++ "-" ++
      Text.padStart 2 '0' (toString day), cs)
  else none

/-- Nanoseconds without trailing zeros; what is finer does not count. -/
def fractionText (digits : List Char) : String :=
  let kept := ((digits.take 9).reverse.dropWhile (· = '0')).reverse
  if kept.isEmpty then "" else "." ++ String.ofList kept

/-- A time of day. Without seconds it is the beginning of a minute; a minute may have one second
more. -/
def time? (cs : List Char) : Option (String × List Char) := do
  let (hour, cs) ← fixed? 2 cs
  let ':' :: cs := cs | none
  let (minute, cs) ← fixed? 2 cs
  if 23 < hour || 59 < minute then none
  let two := fun n => Text.padStart 2 '0' (toString n)
  let start := two hour ++ ":" ++ two minute
  match cs with
  | ':' :: cs =>
    let (second, cs) ← fixed? 2 cs
    if 60 < second then none
    match cs with
    | '.' :: cs =>
      let (digits, cs) := cs.span Char.isDigit
      if digits.isEmpty then none
      some (start ++ ":" ++ two second ++ fractionText digits, cs)
    | _ => some (start ++ ":" ++ two second, cs)
  | _ => some (start ++ ":00", cs)

/-- A zone, to the end; without a difference it has a plus sign. -/
def zone? : List Char → Option String
  | [] => some ""
  | ['Z'] | ['z'] => some "Z"
  | mark :: cs =>
    if mark = '+' || mark = '-' then do
      let (hour, cs) ← fixed? 2 cs
      let ':' :: cs := cs | none
      let (minute, cs) ← fixed? 2 cs
      if cs.isEmpty && hour ≤ 23 && minute ≤ 59 then
        let mark := if hour = 0 && minute = 0 then "+" else mark.toString
        some (mark ++ Text.padStart 2 '0' (toString hour) ++ ":" ++ Text.padStart 2 '0' (toString minute))
      else none
    else none

def isDateMark (c : Char) : Bool := c = 'T' || c = 't' || c = ' '

/-- A date, a time, or both, and then perhaps a zone. -/
def moment? (cs : List Char) : Option String :=
  match date? cs with
  | some (date, []) => some date
  | some (date, mark :: rest) =>
    if isDateMark mark then do
      let (time, rest) ← time? rest
      let zone ← zone? rest
      some (date ++ "T" ++ time ++ zone)
    else none
  | none =>
    match time? cs with
    | some (time, []) => some time
    | _ => none

/-- The name under which a date or a time stands. -/
def momentKey : String := "$__toml_private_datetime"

/-- Whether a word begins like a date, so that a blank and a time may follow. -/
def isDateWord (word : List Char) : Bool :=
  match date? word with
  | some (_, []) => true
  | _ => false

/-- The value of one word. -/
def scalar? (word : List Char) : Option Tree :=
  if word = ['t', 'r', 'u', 'e'] then some (.bool true)
  else if word = ['f', 'a', 'l', 's', 'e'] then some (.bool false)
  else match moment? word with
    | some text => some (.record [(momentKey, .text text)])
    | none => (integer? word).or (float? word)

end SelfCheck.Toml
