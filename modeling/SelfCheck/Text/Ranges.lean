import SelfCheck.Text.Blank
import SelfCheck.Text.Numeral

/-! Tables keyed by code points, and sets of characters given by ranges.

Keys rise from entry to entry. Tables are written in lines of hexadecimal code points with blanks
between the entries.
-/

set_option autoImplicit false

namespace SelfCheck.Text

variable {α : Type}

/-- The place of the first entry, from `low` up to `high`, whose key is beyond `n`. -/
def placeBehind (table : Array (Nat × α)) (n low high : Nat) : Nat :=
  if low < high then
    if (table[(low + high) / 2]?).all fun entry => entry.1 ≤ n then
      placeBehind table n ((low + high) / 2 + 1) high
    else placeBehind table n low ((low + high) / 2)
  else low
termination_by high - low
decreasing_by all_goals omega

/-- The last entry whose key is at most `n`. -/
def entryUpTo? (table : Array (Nat × α)) (n : Nat) : Option (Nat × α) :=
  let place := placeBehind table n 0 table.size
  if place = 0 then none else table[place - 1]?

/-- What stands at the key `n`. -/
def entryAt? (table : Array (Nat × α)) (n : Nat) : Option α :=
  match entryUpTo? table n with
  | some (key, value) => if key = n then some value else none
  | none => none

/-- The first code point of each range, and the last one. -/
abbrev Ranges := Array (Nat × Nat)

def Ranges.contains (ranges : Ranges) (c : Char) : Bool :=
  match entryUpTo? ranges c.toNat with
  | some (_, last) => c.toNat ≤ last
  | none => false

/-! Reading tables. -/

/-- The code points around a mark, or one code point twice. -/
def bounds (mark : Char) (word : List Char) : Nat × Nat :=
  let (first, last) := word.span (· ≠ mark)
  (hexNumber first, hexNumber (if last.isEmpty then first else last.drop 1))

/-- The entries of a table; empty words do not count. -/
def words (lines : List String) : List (List Char) :=
  (lines.flatMap fun line => splitAt ' ' line.toList).filter fun word => !word.isEmpty

/-- The ranges that lines give: single code points, or the first and the last with a hyphen
between them. -/
def Ranges.ofLines (lines : List String) : Ranges :=
  ((words lines).map (bounds '-')).toArray

end SelfCheck.Text
