import SelfCheck.Net.Address
import SelfCheck.Net.HostName.Label
import SelfCheck.Text.Utf8

/-! Host names in addresses of the web.

A name is in one common spelling; a label with other than ASCII characters is written in the form that
name servers take. A name that ends in a number is an address.
-/

set_option autoImplicit false

namespace SelfCheck.Net

/-- Characters that no name may have. -/
def isForbidden (c : Char) : Bool :=
  c.toNat ≤ 0x20 || c.toNat = 0x7F || "#%/:<>?@[\\]^|".toList.contains c

def joinLabels (labels : List (List Char)) : List Char := List.intercalate ['.'] labels

/-- A name in its normal form. -/
def nameText? (cs : List Char) : Option (List Char) := do
  let spelt ← HostName.spell? cs
  if spelt.any isForbidden then none
  let labels ← (Text.splitAt '.' spelt).mapM HostName.label?
  if labels.any (·.any HostName.turnsName) && !labels.all HostName.keepsDirection then none
  return joinLabels (labels.map HostName.labelText)

/-- A number of an address: in hexadecimal, octal or decimal. -/
def oldNumber? (cs : List Char) : Option Nat :=
  match cs with
  | [] => none
  | '0' :: 'x' :: rest | '0' :: 'X' :: rest =>
    if rest.all Text.isHexDigit then some (Text.hexNumber rest) else none
  | '0' :: d :: rest =>
    if (d :: rest).all fun c => '0' ≤ c && c ≤ '7' then
      some ((d :: rest).foldl (fun n c => n * 8 + Text.hexValue c) 0)
    else none
  | _ => if cs.all Char.isDigit then some (Text.decimalValue 0 cs) else none

/-- The labels, without an empty one at the end. -/
def withoutLastEmpty (labels : List (List Char)) : List (List Char) :=
  match labels.reverse with
  | [] :: (label :: rest) => (label :: rest).reverse
  | _ => labels

/-- Whether a name is meant as an address. -/
def endsInNumber (name : List Char) : Bool :=
  match (withoutLastEmpty (Text.splitAt '.' name)).getLast? with
  | some label => !label.isEmpty && (label.all Char.isDigit || (oldNumber? label).isSome)
  | none => false

/-- An address with one to four numbers; the last one fills what is left. -/
def oldAddress? (name : List Char) : Option (BitVec 32) := do
  let numbers ← (withoutLastEmpty (Text.splitAt '.' name)).mapM oldNumber?
  match numbers.reverse with
  | [] => none
  | last :: front =>
    let front := front.reverse
    let room := Nat.pow 256 (4 - front.length)
    if 3 < front.length || front.any (255 < ·) || room ≤ last then none
    else some (BitVec.ofNat 32 (front.foldl (fun n part => n * 256 + part) 0 * room + last))

/-- An address of the newer family in brackets, always in hexadecimal. -/
def bracketed (bits : BitVec 128) : String :=
  let groups := hextets bits
  let (start, length) := zeroRun groups
  let text :=
    if 1 < length then
      hextetTexts (groups.take start) ++ "::" ++ hextetTexts (groups.drop (start + length))
    else hextetTexts groups
  "[" ++ text ++ "]"

/-- The value of bytes written as two hexadecimal digits behind a percent sign. -/
def percentDecode : List UInt8 → List UInt8
  | 37 :: a :: b :: rest =>
    let high := Char.ofNat a.toNat
    let low := Char.ofNat b.toNat
    if Text.isHexDigit high && Text.isHexDigit low then
      UInt8.ofNat (Text.hexValue high * 16 + Text.hexValue low) :: percentDecode rest
    else 37 :: percentDecode (a :: b :: rest)
  | b :: rest => b :: percentDecode rest
  | [] => []

/-- The normal form of a host. -/
def hostText? (cs : List Char) : Option String := do
  match cs with
  | '[' :: rest =>
    match readV6 rest with
    | some (bits, [']']) => some (bracketed bits)
    | _ => none
  | _ =>
    let name ← (Text.decode? (percentDecode (Text.bytesOf (String.ofList cs)))).bind (nameText? ·.toList)
    if name.isEmpty then none
    else if endsInNumber name then (oldAddress? name).map v4Text
    else some (String.ofList name)

end SelfCheck.Net
