import SelfCheck.Net.HostName.Spelling
import SelfCheck.Net.Punycode
import SelfCheck.Text.Direction
import SelfCheck.Text.Joining
import SelfCheck.Text.Mark

/-! Labels of names, between full stops. -/

set_option autoImplicit false

namespace SelfCheck.Net.HostName

def isAscii (cs : List Char) : Bool := cs.all (·.toNat < 128)

/-! Joiners show how the characters around them are to be drawn, so they stand only where that
makes a difference. -/

def joiner : Char := Char.ofNat 0x200D

def nonJoiner : Char := Char.ofNat 0x200C

/-- The class of the marks that take the vowel from a letter. -/
def vowelKiller : Nat := 9

/-- Whether the letters on both sides would join. -/
def wouldJoin (before behind : List Char) : Bool :=
  ((before.dropWhile Text.isTransparent).head?.any Text.joinsBehind) &&
    (behind.dropWhile Text.isTransparent).head?.any Text.joinsBefore

/-- Whether the joiners fit into a text; what is before it is written backwards. -/
def joinersFit (before : List Char) : List Char → Bool
  | [] => true
  | c :: behind =>
    ((c ≠ joiner && c ≠ nonJoiner) ||
      before.head?.any (Text.combiningClass · = vowelKiller) ||
      (c = nonJoiner && wouldJoin before behind)) && joinersFit (c :: before) behind

/-! Direction. -/

/-- Whether a name with this character has labels from right to left. -/
def turnsName (c : Char) : Bool := [.right, .arabicNumber].contains (Text.Direction.of c)

/-- Whether a label can be read in one direction only: it begins with a letter, ends with a letter or
a digit of that direction but for marks, and has nothing of the other direction. -/
def keepsDirection (label : List Char) : Bool :=
  let directions := label.map Text.Direction.of
  let core := (directions.reverse.dropWhile (· = .mark)).reverse
  match directions.head? with
  | none => true
  | some .left =>
    core.all [.left, .number, .neutral, .mark].contains && core.getLast?.any [.left, .number].contains
  | some .right =>
    core.all [.right, .number, .arabicNumber, .neutral, .mark].contains &&
      core.getLast?.any [.right, .number, .arabicNumber].contains &&
      !(core.contains .number && core.contains .arabicNumber)
  | some _ => false

/-! Encoded labels. -/

def encodedMark : List Char := "xn--".toList

/-- Encoded labels have at most this many characters behind their mark. -/
def maxEncoded : Nat := 2000

/-- Labels with other than ASCII characters have at most this many. -/
def maxLabel : Nat := 1000

/-- The label that an encoded one means; it must need to be encoded, and be in its own spelling. -/
def decodeLabel? (digits : List Char) : Option (List Char) := do
  if maxEncoded < digits.length || !isAscii digits then none
  let label ← Punycode.decode? digits
  if isAscii label || spell? label ≠ some label then none
  return label

/-- The label that characters in their common spelling mean. -/
def label? (cs : List Char) : Option (List Char) := do
  let label ← if encodedMark.isPrefixOf cs then decodeLabel? (cs.drop encodedMark.length) else some cs
  if label.head?.any Text.isMark || !joinersFit [] label || (!isAscii label && maxLabel < label.length)
    then none
  return label

/-- A label as name servers take it. -/
def labelText (label : List Char) : List Char :=
  if isAscii label then label else encodedMark ++ Punycode.encode label

end SelfCheck.Net.HostName
