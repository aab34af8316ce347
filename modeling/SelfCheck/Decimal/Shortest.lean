/-! The shortest decimal that reads back as a given binary fraction.

A binary fraction `m * 2 ^ q` stands for every real that rounds to it. Among the decimals in that
interval the shortest is chosen, and of two that are equally short the nearer.
-/

set_option autoImplicit false

namespace SelfCheck

/-- The number `digits * 10 ^ exponent`. -/
structure Decimal where
  digits : Nat
  exponent : Int
  deriving DecidableEq, Repr

namespace Decimal

/-- A positive binary fraction `mantissa * 2 ^ exponent`; `narrow` when the next smaller one is
nearer than the next larger one. -/
structure Binary where
  mantissa : Nat
  exponent : Int
  narrow : Bool
  deriving DecidableEq, Repr

/-- A quotient of naturals. -/
structure Quotient where
  num : Nat
  den : Nat
  deriving DecidableEq, Repr

namespace Quotient

def le (a b : Quotient) : Bool := a.num * b.den ≤ b.num * a.den

def lt (a b : Quotient) : Bool := a.num * b.den < b.num * a.den

/-- `n * base ^ exponent`. -/
def scaled (n base : Nat) (exponent : Int) : Quotient :=
  match exponent with
  | .ofNat e => ⟨n * Nat.pow base e, 1⟩
  | .negSucc e => ⟨n, Nat.pow base (e + 1)⟩

def sub (a b : Quotient) : Quotient := ⟨a.num * b.den - b.num * a.den, a.den * b.den⟩

end Quotient

namespace Binary

def value (b : Binary) : Quotient := .scaled b.mantissa 2 b.exponent

/-- The lower end of the reals that round to a fraction. -/
def lower (b : Binary) : Quotient :=
  if b.narrow then .scaled (4 * b.mantissa - 1) 2 (b.exponent - 2)
  else .scaled (2 * b.mantissa - 1) 2 (b.exponent - 1)

/-- The upper end of the reals that round to a fraction. -/
def upper (b : Binary) : Quotient := .scaled (2 * b.mantissa + 1) 2 (b.exponent - 1)

/-- Whether a real rounds to a fraction; ties go to the even mantissa. -/
def holds (b : Binary) (x : Quotient) : Bool :=
  if b.mantissa % 2 = 0 then b.lower.le x && x.le b.upper
  else b.lower.lt x && x.lt b.upper

end Binary

/-- The least `k` with `x < 10 ^ k`, searched upwards from `start`. -/
def magnitudeFrom (x : Quotient) : Nat → Int → Int
  | 0, start => start
  | fuel + 1, start =>
    if x.lt (.scaled 1 10 start) then start else magnitudeFrom x fuel (start + 1)

/-- The least `k` with `x < 10 ^ k`, for any finite double. -/
def magnitude (x : Quotient) : Int := magnitudeFrom x 640 (-324)

/-- The neighbours of a fraction among the decimals with a given last place that stand for it, the
nearer in front. -/
def hits (b : Binary) (place : Int) : List Decimal :=
  let v := b.value
  let unit := Quotient.scaled 1 10 place
  let floor := v.num * unit.den / (v.den * unit.num)
  let below : Decimal := ⟨floor, place⟩
  let above : Decimal := ⟨floor + 1, place⟩
  let belowValue := Quotient.scaled floor 10 place
  let aboveValue := Quotient.scaled (floor + 1) 10 place
  let toBelow := v.sub belowValue
  let toAbove := aboveValue.sub v
  let belowFirst := toBelow.lt toAbove || (toBelow.le toAbove && floor % 2 = 0)
  let found := (if b.holds belowValue && 0 < floor then [below] else []) ++
    (if b.holds aboveValue then [above] else [])
  if belowFirst then found else found.reverse

/-- The first hit when the last place moves down from `place`. -/
def firstHit (b : Binary) : Nat → Int → Decimal
  | 0, place => ⟨0, place⟩
  | fuel + 1, place =>
    match hits b place with
    | found :: _ => found
    | [] => firstHit b fuel (place - 1)

/-- The shortest decimal for a positive binary fraction. -/
def shortest (b : Binary) : Decimal := firstHit b 25 (magnitude b.value)

/-- The magnitude of a finite double that is not zero. -/
def Binary.ofDouble (x : Float) : Binary :=
  let bits : Nat := x.toBits.toNat
  let fraction : Nat := bits % 0x10000000000000
  let biased : Nat := bits >>> 52 % 0x800
  if biased = 0 then ⟨fraction, -1074, false⟩
  else ⟨0x10000000000000 + fraction, (biased : Int) - 1075, fraction = 0 && 1 < biased⟩

def isNegative (x : Float) : Bool := x.toBits.toNat >>> 63 = 1

def isZero (x : Float) : Bool := x.toBits.toNat % 0x8000000000000000 = 0

end Decimal

end SelfCheck
