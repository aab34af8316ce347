import SelfCheck.Text.Blank
import SelfCheck.Text.Numeral

/-! Network addresses and how they are written. -/

set_option autoImplicit false

namespace SelfCheck.Net

inductive IpAddress where
  | v4 (bits : BitVec 32)
  | v6 (bits : BitVec 128)
  deriving DecidableEq, Repr

/-- Groups in wire order as one word. -/
def joinGroups (width base : Nat) (groups : List Nat) : BitVec width :=
  BitVec.ofNat width (groups.foldl (fun word group => word * base + group) 0)

/-- The four parts of an address of the older family. -/
def octets (bits : BitVec 32) : List Nat :=
  [24, 16, 8, 0].map fun shift => bits.toNat >>> shift % 256

/-- The eight parts of an address of the newer family. -/
def hextets (bits : BitVec 128) : List Nat :=
  [112, 96, 80, 64, 48, 32, 16, 0].map fun shift => bits.toNat >>> shift % 65536

/-- The address of the older family that an address stands for. -/
def mapped? (bits : BitVec 128) : Option (BitVec 32) :=
  if bits.toNat >>> 32 = 0xFFFF then some (bits.setWidth 32) else none

/-- An address as it is compared: one that stands for an older address is that address. -/
def IpAddress.canonical : IpAddress → IpAddress
  | .v4 bits => .v4 bits
  | .v6 bits =>
    match mapped? bits with
    | some old => .v4 old
    | none => .v6 bits

/-! Reading. Each reader gives what stands behind what it has read. -/

/-- A number of one digit or more; with a `limit` on digits more of them are an error. -/
def readDigits (radix : Nat) (limit : Option Nat) (leadingZero : Bool) (cs : List Char) :
    Option (Nat × List Char) :=
  let isRadixDigit (c : Char) : Bool := if radix = 16 then Text.isHexDigit c else c.isDigit
  let (digits, rest) := cs.span isRadixDigit
  let tooMany := match limit with
    | some most => most < digits.length
    | none => false
  if digits.isEmpty || tooMany || (!leadingZero && digits.head? = some '0' && 1 < digits.length) then
    none
  else some (digits.foldl (fun n c => n * radix + Text.hexValue c) 0, rest)

def readOctet (cs : List Char) : Option (Nat × List Char) :=
  match readDigits 10 (some 3) false cs with
  | some (n, rest) => if n < 256 then some (n, rest) else none
  | none => none

def readV4 (cs : List Char) : Option (BitVec 32 × List Char) := do
  let (a, cs) ← readOctet cs
  let '.' :: cs := cs | none
  let (b, cs) ← readOctet cs
  let '.' :: cs := cs | none
  let (c, cs) ← readOctet cs
  let '.' :: cs := cs | none
  let (d, cs) ← readOctet cs
  return (joinGroups 32 256 [a, b, c, d], cs)

/-- The text behind the separator that a group needs unless it is the first. -/
def afterColon (first : Bool) (cs : List Char) : Option (List Char) :=
  if first then some cs
  else match cs with
    | ':' :: rest => some rest
    | _ => none

/-- Groups up to `room` of them. An older address may stand for the last two; the flag says so. -/
def readGroups : (room : Nat) → (first : Bool) → List Char → List Nat × Bool × List Char
  | 0, _, cs => ([], false, cs)
  | room + 1, first, cs =>
    match afterColon first cs with
    | none => ([], false, cs)
    | some inside =>
      let old := if 0 < room then readV4 inside else none
      match old with
      | some (bits, rest) => ([bits.toNat / 65536, bits.toNat % 65536], true, rest)
      | none =>
        match readDigits 16 (some 4) true inside with
        | none => ([], false, cs)
        | some (group, rest) =>
          let (groups, embedded, rest) := readGroups room false rest
          (group :: groups, embedded, rest)

def readV6 (cs : List Char) : Option (BitVec 128 × List Char) :=
  let (head, embedded, rest) := readGroups 8 true cs
  if head.length = 8 then some (joinGroups 128 65536 head, rest)
  else if embedded then none
  else match rest with
    | ':' :: ':' :: rest =>
      let (tail, _, rest) := readGroups (7 - head.length) true rest
      let gap := List.replicate (8 - head.length - tail.length) 0
      some (joinGroups 128 65536 (head ++ gap ++ tail), rest)
    | _ => none

def IpAddress.read? (text : String) : Option IpAddress :=
  match readV4 text.toList with
  | some (bits, []) => some (.v4 bits)
  | _ =>
    match readV6 text.toList with
    | some (bits, []) => some (.v6 bits)
    | _ => none

/-! Writing. -/

def v4Text (bits : BitVec 32) : String := ".".intercalate ((octets bits).map toString)

def hextetTexts (groups : List Nat) : String := ":".intercalate (groups.map Text.lowerHex)

/-- Where the first of the longest runs of zeros starts, and its length. -/
def zeroRun (groups : List Nat) : Nat × Nat :=
  let runs := (List.range groups.length).map fun start =>
    (start, ((groups.drop start).takeWhile (· = 0)).length)
  runs.foldl (fun best run => if best.2 < run.2 then run else best) (0, 0)

def v6Text (bits : BitVec 128) : String :=
  match mapped? bits with
  | some old => "::ffff:" ++ v4Text old
  | none =>
    let groups := hextets bits
    let (start, length) := zeroRun groups
    if 1 < length then
      hextetTexts (groups.take start) ++ "::" ++ hextetTexts (groups.drop (start + length))
    else hextetTexts groups

def IpAddress.text : IpAddress → String
  | .v4 bits => v4Text bits
  | .v6 bits => v6Text bits

/-! Socket addresses. -/

/-- An address, its zone if the family has zones, and a port. -/
structure SocketAddress where
  ip : IpAddress
  zone : Nat := 0
  port : Nat
  deriving DecidableEq, Repr

def maxZone : Nat := 0xFFFFFFFF

def readBoundedDigits (limit : Nat) (cs : List Char) : Option (Nat × List Char) :=
  match readDigits 10 none true cs with
  | some (n, rest) => if n ≤ limit then some (n, rest) else none
  | none => none

/-- A colon and a port, to the end. -/
def readPort (cs : List Char) : Option Nat :=
  match cs with
  | ':' :: rest =>
    match readBoundedDigits Text.maxPort rest with
    | some (port, []) => some port
    | _ => none
  | _ => none

def readZone (cs : List Char) : Option (Nat × List Char) :=
  match cs with
  | '%' :: rest => readBoundedDigits maxZone rest
  | _ => some (0, cs)

def SocketAddress.read? (text : String) : Option SocketAddress :=
  let old := do
    let (bits, rest) ← readV4 text.toList
    let port ← readPort rest
    return { ip := .v4 bits, port : SocketAddress }
  let new := do
    let '[' :: cs := text.toList | none
    let (bits, rest) ← readV6 cs
    let (zone, rest) ← readZone rest
    let ']' :: rest := rest | none
    let port ← readPort rest
    return { ip := .v6 bits, zone, port : SocketAddress }
  old.or new

def SocketAddress.text (address : SocketAddress) : String :=
  match address.ip with
  | .v4 bits => v4Text bits ++ ":" ++ toString address.port
  | .v6 bits =>
    let zone := if address.zone = 0 then "" else "%" ++ toString address.zone
    "[" ++ v6Text bits ++ zone ++ "]:" ++ toString address.port

end SelfCheck.Net
