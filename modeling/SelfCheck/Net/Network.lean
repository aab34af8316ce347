import SelfCheck.Net.Address

/-! Networks: an address and the number of its leading bits that all members share. -/

set_option autoImplicit false

namespace SelfCheck.Net

/-- The number of bits of an address. -/
def IpAddress.width : IpAddress → Nat
  | .v4 _ => 32
  | .v6 _ => 128

/-- The address may have bits set behind the shared ones; they do not matter. -/
structure Network where
  address : IpAddress
  shared : Nat
  shared_le : shared ≤ address.width
  deriving DecidableEq, Repr

inductive NetworkError where
  | badAddress (text : String)
  | badLength (text : String)
  | tooLong (limit : Nat) (text : String)
  deriving DecidableEq, Repr

def NetworkError.message : NetworkError → String
  | badAddress text => "invalid network address: " ++ text
  | badLength text => "invalid prefix length: " ++ text
  | tooLong limit text => "prefix length exceeds " ++ toString limit ++ ": " ++ text

namespace Network

/-- Ones in the leading bits. -/
def mask (width shared : Nat) : BitVec width :=
  if shared = 0 then 0 else BitVec.allOnes width <<< (width - shared)

def agree {width : Nat} (shared : Nat) (a b : BitVec width) : Bool :=
  a &&& mask width shared == b &&& mask width shared

/-- Whether an address belongs to a network; families do not mix. -/
def contains (network : Network) (address : IpAddress) : Bool :=
  match network.address, address.canonical with
  | .v4 net, .v4 a => agree network.shared net a
  | .v6 net, .v6 a => agree network.shared net a
  | _, _ => false

/-- Read an address with the number of shared bits behind a slash; without one all are shared. -/
def read (raw : String) : Except NetworkError Network :=
  let text := Text.trim raw
  let (address, length) := match Text.cutAt? ['/'] text.toList with
    | some (address, length) => (String.ofList address, some length)
    | none => (text, none)
  match IpAddress.read? address with
  | none => .error (.badAddress text)
  | some address =>
    match length with
    | none => .ok ⟨address, address.width, Nat.le_refl _⟩
    | some length =>
      match Text.readBounded? Text.maxByte (Text.trimChars length) with
      | none => .error (.badLength text)
      | some shared =>
        if fits : shared ≤ address.width then .ok ⟨address, shared, fits⟩
        else .error (.tooLong address.width text)

end Network

end SelfCheck.Net
