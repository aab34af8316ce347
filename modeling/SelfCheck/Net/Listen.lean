import SelfCheck.Net.Address
import SelfCheck.Text.Quoted

/-! The places where a gateway listens. -/

set_option autoImplicit false

namespace SelfCheck.Net

inductive ListenError where
  | otherScheme (text scheme : String)
  | badAddress (text : String)
  | portZero (text : String)
  deriving DecidableEq, Repr

def ListenError.message : ListenError → String
  | otherScheme text scheme =>
    "listen " ++ Text.quoted text ++ ": only tcp:// is supported, got " ++ scheme ++ "://"
  | badAddress text =>
    "listen " ++ Text.quoted text ++
      ": expected tcp://<ip>:<port>, e.g. tcp://0.0.0.0:6443 or tcp://[::1]:6443"
  | portZero text => "listen " ++ Text.quoted text ++ ": port must be 1..=65535"

/-- Read an address with a port, with or without the scheme in front. -/
def readListen (raw : String) : Except ListenError SocketAddress :=
  let text := Text.trim raw
  let checked (address : String) : Except ListenError SocketAddress :=
    match SocketAddress.read? address with
    | none => .error (.badAddress text)
    | some address => if address.port = 0 then .error (.portZero text) else .ok address
  match Text.cutAt? [':', '/', '/'] text.toList with
  | none => checked text
  | some (scheme, address) =>
    if scheme = ['t', 'c', 'p'] then checked (String.ofList address)
    else .error (.otherScheme text (String.ofList scheme))

theorem port_ne_zero {raw : String} {address : SocketAddress}
    (read : readListen raw = .ok address) : address.port ≠ 0 := by
  simp only [readListen] at read
  repeat' split at read
  all_goals simp_all

end SelfCheck.Net
