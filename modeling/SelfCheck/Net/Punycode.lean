import SelfCheck.Text.Blank

/-! Labels of names in the form that name servers take.

The characters of ASCII stand in front; the others are inserted by numbers that say which one comes
next and where. A number is written in digits whose base depends on their place and on the numbers
before. Main statement: a number that is written reads back.
-/

set_option autoImplicit false

namespace SelfCheck.Net.Punycode

def digit (d : Nat) : Char := if d < 26 then Char.ofNat (97 + d) else Char.ofNat (22 + d)

def threshold (k bias : Nat) : Nat :=
  if k ≤ bias then 1 else if bias + 26 ≤ k then 26 else k - bias

theorem threshold_bounds (k bias : Nat) : 1 ≤ threshold k bias ∧ threshold k bias ≤ 26 := by
  simp only [threshold]
  split
  · omega
  · split <;> omega

def shrink (delta k : Nat) : Nat × Nat :=
  if 455 < delta then shrink (delta / 35) (k + 36) else (delta, k)
termination_by delta
decreasing_by omega

def adapt (delta count : Nat) (first : Bool) : Nat :=
  let halved := if first then delta / 700 else delta / 2
  let (delta, k) := shrink (halved + halved / count) 0
  k + 36 * delta / (delta + 38)

/-- A number in digits whose base changes with their place. -/
def number (bias k n : Nat) : List Char :=
  if n < threshold k bias then [digit n]
  else
    digit (threshold k bias + (n - threshold k bias) % (36 - threshold k bias)) ::
      number bias (k + 36) ((n - threshold k bias) / (36 - threshold k bias))
termination_by n
decreasing_by
  have bounds := threshold_bounds k bias
  have := Nat.div_le_self (n - threshold k bias) (36 - threshold k bias)
  omega

/-- Where an encoder stands. -/
structure State where
  delta : Nat
  bias : Nat
  handled : Nat
  basic : Nat
  output : List Char

/-- One pass over the text for the characters with the number `n`. -/
def pass (n : Nat) (state : State) (c : Char) : State :=
  if c.toNat < n then { state with delta := state.delta + 1 }
  else if c.toNat = n then
    { state with
      delta := 0
      bias := adapt state.delta (state.handled + 1) (state.handled = state.basic)
      handled := state.handled + 1
      output := state.output ++ number state.bias 36 state.delta }
  else state

/-- Handle the numbers of the other characters in their order. -/
def insert (cs : List Char) : List Nat → Nat → State → List Char
  | [], _, state => state.output
  | n :: later, reached, state =>
    let state := { state with delta := state.delta + (n - reached) * (state.handled + 1) }
    let state := cs.foldl (pass n) state
    insert cs later (n + 1) { state with delta := state.delta + 1 }

def encode (cs : List Char) : List Char :=
  let basic := cs.filter (·.toNat < 128)
  let others := ((cs.filter (128 ≤ ·.toNat)).map Char.toNat).eraseDups.mergeSort
  let start := if basic.isEmpty then [] else basic ++ ['-']
  insert cs others 128 ⟨0, 72, basic.length, basic.length, start⟩

/-! Decoding. -/

/-- The value of a digit; small and capital letters have the same. -/
def digitValue? (c : Char) : Option Nat :=
  if 'a' ≤ c && c ≤ 'z' then some (c.toNat - 97)
  else if 'A' ≤ c && c ≤ 'Z' then some (c.toNat - 65)
  else if c.isDigit then some (c.toNat - 22)
  else none

theorem digitValue?_digit {d : Nat} (isDigit : d < 36) : digitValue? (digit d) = some d := by
  have all : ∀ d ∈ List.range 36, digitValue? (digit d) = some d := by decide
  exact all d (List.mem_range.2 isDigit)

/-- The number at the front, on top of `sum`, where the first digit counts `weight`. -/
def readNumber? (bias : Nat) : List Char → (k weight sum : Nat) → Option (Nat × List Char)
  | [], _, _, _ => none
  | c :: rest, k, weight, sum =>
    match digitValue? c with
    | none => none
    | some d =>
      if d < threshold k bias then some (sum + d * weight, rest)
      else readNumber? bias rest (k + 36) (weight * (36 - threshold k bias)) (sum + d * weight)

theorem length_lt_of_readNumber? {bias : Nat} {cs : List Char} {k weight sum n : Nat}
    {rest : List Char} (read : readNumber? bias cs k weight sum = some (n, rest)) :
    rest.length < cs.length := by
  induction cs generalizing k weight sum with
  | nil => simp [readNumber?] at read
  | cons c cs ih =>
    simp only [readNumber?] at read
    split at read
    · simp at read
    · split at read
      · simp only [Option.some.injEq, Prod.mk.injEq] at read
        simp [← read.2]
      · have := ih read
        simp only [List.length_cons]
        omega

theorem readNumber?_number (bias k n weight sum : Nat) (rest : List Char) :
    readNumber? bias (number bias k n ++ rest) k weight sum = some (sum + n * weight, rest) := by
  fun_induction number bias k n generalizing weight sum with
  | case1 k n small =>
    have bounds := threshold_bounds k bias
    simp [readNumber?, digitValue?_digit (show n < 36 by omega), small]
  | case2 k n large ih =>
    have bounds := threshold_bounds k bias
    have remainder := Nat.mod_lt (n - threshold k bias) (show 0 < 36 - threshold k bias by omega)
    have whole := Nat.mod_add_div' (n - threshold k bias) (36 - threshold k bias)
    have isDigit : threshold k bias + (n - threshold k bias) % (36 - threshold k bias) < 36 := by omega
    simp only [List.cons_append, readNumber?, digitValue?_digit isDigit, ih]
    rw [if_neg (by omega), Nat.add_assoc, ← Nat.mul_assoc, Nat.mul_right_comm, ← Nat.add_mul]
    congr 4
    omega

def isScalar (n : Nat) : Bool := n < 0xD800 || (0xE000 ≤ n && n < 0x110000)

/-- A text with further characters in it. The next one has the number `n` and stands at `place` or
behind it, or it has a higher number. -/
def insertAll? (bias n place : Nat) (text cs : List Char) : Option (List Char) :=
  match _read : readNumber? bias cs 36 1 place with
  | none => if cs.isEmpty then some text else none
  | some (sum, rest) =>
    let count := text.length + 1
    let next := n + sum / count
    if isScalar next then
      insertAll? (adapt (sum - place) count (place = 0)) next (sum % count + 1)
        (text.insertIdx (sum % count) (Char.ofNat next)) rest
    else none
termination_by cs.length
decreasing_by exact length_lt_of_readNumber? _read

/-- The text of an encoded label. -/
def decode? (cs : List Char) : Option (List Char) :=
  match Text.cutAtLast? '-' cs with
  | some (c :: basic, rest) => insertAll? 72 128 0 (c :: basic) rest
  | _ => insertAll? 72 128 0 [] cs

end SelfCheck.Net.Punycode
