import SelfCheck.Decimal.Shortest
import SelfCheck.Json
import SelfCheck.Text.Numeral

/-! The text of a number, and the number of a text.

A whole number is written in full. A double has the fewest digits that read back: positional from
`10 ^ -5` up to `10 ^ 16`, always with a fraction, and with an exponent outside of that.
-/

set_option autoImplicit false

namespace SelfCheck.Json.Number

open Decimal

def zeros (n : Nat) : List Char := List.replicate n '0'

def digitsOf (n : Nat) : List Char := Nat.toDigits 10 n

/-- The sign is written for positive exponents too. -/
def exponentText (exponent : Int) : List Char :=
  match exponent with
  | .ofNat n => 'e' :: '+' :: digitsOf n
  | .negSucc n => 'e' :: '-' :: digitsOf (n + 1)

/-- The text of a positive decimal. -/
def decimalText (d : Decimal) : List Char :=
  let ds := digitsOf d.digits
  let point : Int := ds.length + d.exponent
  if 0 ≤ d.exponent && point ≤ 16 then ds ++ zeros d.exponent.toNat ++ ['.', '0']
  else if 0 < point && point ≤ 16 then
    ds.take point.toNat ++ '.' :: ds.drop point.toNat
  else if -5 < point && point ≤ 0 then '0' :: '.' :: zeros (-point).toNat ++ ds
  else match ds with
    | [] => []
    | [first] => first :: exponentText (point - 1)
    | first :: rest => first :: '.' :: rest ++ exponentText (point - 1)

def realText (x : Float) : List Char :=
  let magnitude := if isZero x then ['0', '.', '0'] else decimalText (shortest (.ofDouble x))
  if isNegative x then '-' :: magnitude else magnitude

def wholeText (n : Int) : List Char :=
  match n with
  | .ofNat n => digitsOf n
  | .negSucc n => '-' :: digitsOf (n + 1)

def chars : Number → List Char
  | whole n => wholeText n
  | real x => realText x

def text (n : Number) : String := String.ofList n.chars

/-! Reading: the digits make a 64-bit significand, those that do not fit only count, and one
multiplication or division by a power of ten gives the double. -/

/-- The parts of a numeral. -/
structure Numeral where
  negative : Bool
  digits : List Char
  fraction : List Char
  /-- The exponent's sign is apart, because its digits may be too many for a number. -/
  exponent : Option (Bool × List Char)
  deriving DecidableEq, Repr

/-- A significand grown by digits while it fits in 64 bits; the second part is what did not fit. -/
def grow (significand : Nat) : List Char → Nat × List Char
  | [] => (significand, [])
  | c :: cs =>
    let next := significand * 10 + Text.digitValue c
    if next ≤ Text.maxWord then grow next cs else (significand, c :: cs)

def power (n : Nat) : Float := Float.ofScientific 1 false n

/-- `f * 10 ^ exponent`, in steps a double can hold; none when it is too large. -/
def scale : Nat → Float → Int → Option Float
  | 0, _, _ => none
  | fuel + 1, f, exponent =>
    if exponent.natAbs ≤ 308 then
      if 0 ≤ exponent then
        let product := f * power exponent.natAbs
        if product.isInf then none else some product
      else some (f / power exponent.natAbs)
    else if f == 0.0 then some f
    else if 0 ≤ exponent then none
    else scale fuel (f / power 308) (exponent + 308)

def withSign (negative : Bool) (f : Float) : Float := if negative then -f else f

/-- The double `significand * 10 ^ exponent`; none when it is too large. -/
def scaled? (negative : Bool) (significand : Nat) (exponent : Int) : Option Float :=
  (scale (exponent.natAbs / 308 + 2) (UInt64.ofNat significand).toFloat exponent).map
    (withSign negative)

def maxExponent : Nat := 0x7FFFFFFF

/-- The double of a numeral with its written exponent; too large an exponent makes any number but
zero too large, or zero. -/
def withExponent? (negative : Bool) (significand : Nat) (place : Int) :
    Option (Bool × List Char) → Option Float
  | none => scaled? negative significand place
  | some (down, digits) =>
    let written := Text.decimalValue 0 digits
    if written ≤ maxExponent then
      scaled? negative significand (if down then place - written else place + written)
    else if significand ≠ 0 && !down then none
    else some (withSign negative 0.0)

/-- The number a numeral stands for; none when it is too large for a double. -/
def Numeral.value? (n : Numeral) : Option Number :=
  let (significand, surplus) := grow 0 n.digits
  if surplus.isEmpty && n.fraction.isEmpty && n.exponent.isNone then
    if !n.negative then some (.whole significand)
    else if significand = 0 || 0x8000000000000000 < significand then
      some (.real (-(UInt64.ofNat significand).toFloat))
    else some (.whole (-(significand : Int)))
  else
    let (significand, unused) := grow significand n.fraction
    let place : Int := surplus.length - (n.fraction.length - unused.length : Nat)
    (withExponent? n.negative significand place n.exponent).map .real

end SelfCheck.Json.Number
