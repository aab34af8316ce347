/-! White space at the ends of a text, and the pieces between separators.

White space is the Unicode property of that name; case mapping is that of the ASCII letters.
-/

set_option autoImplicit false

namespace SelfCheck.Text

/-- The characters with the property White_Space. -/
def isBlank (c : Char) : Bool :=
  let n := c.toNat
  (9 ≤ n && n ≤ 13) || n == 0x20 || n == 0x85 || n == 0xA0 || n == 0x1680 ||
    (0x2000 ≤ n && n ≤ 0x200A) || n == 0x2028 || n == 0x2029 || n == 0x202F ||
    n == 0x205F || n == 0x3000

def dropBlank (cs : List Char) : List Char := cs.dropWhile isBlank

def trimChars (cs : List Char) : List Char :=
  (dropBlank (dropBlank cs).reverse).reverse

/-- A text without the white space at its ends. -/
def trim (s : String) : String := String.ofList (trimChars s.toList)

def isBlankText (s : String) : Bool := s.toList.all isBlank

/-- A text unless nothing but white space is in it. -/
def nonBlank? (s : String) : Option String :=
  if isBlankText s then none else some s

def lowerAscii (s : String) : String := String.ofList (s.toList.map Char.toLower)

def upperAscii (s : String) : String := String.ofList (s.toList.map Char.toUpper)

/-- The parts before and after the first place where `mark` stands. -/
def cutAt? (mark : List Char) : List Char → Option (List Char × List Char)
  | [] => if mark.isEmpty then some ([], []) else none
  | c :: cs =>
    if mark.isPrefixOf (c :: cs) then some ([], (c :: cs).drop mark.length)
    else (cutAt? mark cs).map fun (before, after) => (c :: before, after)

/-- The parts before and after the last `mark`. -/
def cutAtLast? (mark : Char) (cs : List Char) : Option (List Char × List Char) :=
  let behind := cs.reverse.takeWhile (· != mark)
  if behind.length < cs.length then
    some (cs.take (cs.length - behind.length - 1), behind.reverse)
  else none

/-- The pieces between the separators; there is one more piece than separators. -/
def splitAt (separator : Char) : List Char → List (List Char)
  | [] => [[]]
  | c :: cs =>
    if c = separator then [] :: splitAt separator cs
    else match splitAt separator cs with
      | [] => [[c]]
      | piece :: rest => (c :: piece) :: rest

/-- Comma-separated items, trimmed, the empty ones left out. -/
def commaItems (s : String) : List String :=
  ((splitAt ',' s.toList).map fun piece => String.ofList (trimChars piece)).filter (· ≠ "")

theorem cutAt?_append {mark : List Char} {cs before after : List Char}
    (found : cutAt? mark cs = some (before, after)) : cs = before ++ mark ++ after := by
  induction cs generalizing before after with
  | nil =>
    simp only [cutAt?] at found
    split at found <;> simp_all
  | cons c cs ih =>
    simp only [cutAt?] at found
    split at found
    · next starts =>
      obtain ⟨tail, eq⟩ := List.isPrefixOf_iff_prefix.1 starts
      simp only [Option.some.injEq, Prod.mk.injEq] at found
      obtain ⟨rfl, rfl⟩ := found
      simp [← eq]
    · simp only [Option.map_eq_some_iff, Prod.mk.injEq, Prod.exists] at found
      obtain ⟨before', after', inner, rfl, rfl⟩ := found
      simp [ih inner]

end SelfCheck.Text
