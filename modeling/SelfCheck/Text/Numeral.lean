/-! Numerals: reading bounded decimal numbers, padding, and hexadecimal digits. -/

set_option autoImplicit false

namespace SelfCheck.Text

def digitValue (c : Char) : Nat := c.toNat - '0'.toNat

/-- The value of a string of decimal digits, read after `start`. -/
def decimalValue (start : Nat) (digits : List Char) : Nat :=
  digits.foldl (fun value c => value * 10 + digitValue c) start

/-- A number up to `limit`: one digit or more, after at most one plus sign. -/
def readBounded? (limit : Nat) (cs : List Char) : Option Nat :=
  let digits := match cs with
    | '+' :: rest => rest
    | _ => cs
  if digits.isEmpty || !digits.all Char.isDigit then none
  else
    let value := decimalValue 0 digits
    if value ≤ limit then some value else none

def maxByte : Nat := 0xFF

def maxPort : Nat := 0xFFFF

def maxWord : Nat := 0xFFFFFFFFFFFFFFFF

theorem readBounded?_le {limit : Nat} {cs : List Char} {value : Nat}
    (read : readBounded? limit cs = some value) : value ≤ limit := by
  simp only [readBounded?] at read
  generalize (match cs with | '+' :: rest => rest | _ => cs) = digits at read
  split at read
  · simp at read
  · split at read
    · simp_all only [Option.some.injEq]
    · simp at read

/-- A text filled up at the front to `width` characters. -/
def padStart (width : Nat) (fill : Char) (s : String) : String :=
  String.ofList (List.replicate (width - s.length) fill ++ s.toList)

/-- A text filled up with blanks at the end to `width` characters. -/
def padEnd (width : Nat) (s : String) : String :=
  String.ofList (s.toList ++ List.replicate (width - s.length) ' ')

def lowerHexDigit (n : Nat) : Char :=
  if n < 10 then Char.ofNat (48 + n) else Char.ofNat (87 + n)

def upperHexDigit (n : Nat) : Char :=
  if n < 10 then Char.ofNat (48 + n) else Char.ofNat (55 + n)

def isHexDigit (c : Char) : Bool :=
  c.isDigit || ('a' ≤ c && c ≤ 'f') || ('A' ≤ c && c ≤ 'F')

def hexValue (c : Char) : Nat :=
  if c.isDigit then c.toNat - 48
  else if 'a' ≤ c && c ≤ 'f' then c.toNat - 87
  else c.toNat - 55

/-- The value of a string of hexadecimal digits. -/
def hexNumber (digits : List Char) : Nat := digits.foldl (fun n c => n * 16 + hexValue c) 0

/-- Lower-case hexadecimal without leading zeros. -/
def lowerHex (n : Nat) : String := String.ofList (Nat.toDigits 16 n)

end SelfCheck.Text
