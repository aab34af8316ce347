import SelfCheck.Net.Network
import SelfCheck.Tenant

/-! Which library a connection or a login belongs to.

Resolvers are asked in order, each in its own phase; the first that answers decides.
-/

set_option autoImplicit false

namespace SelfCheck

/-- When a resolver is asked: before anything is read, or at a login. -/
inductive Phase where
  | connect
  | login
  deriving DecidableEq, Repr

def Phase.name : Phase → String
  | connect => "connect"
  | login => "login"

/-- What is known about a connection; user and location code only at a login. -/
structure Facts where
  port : Nat
  peer : Net.IpAddress
  loginUser : Option String := none
  location : Option String := none
  deriving DecidableEq, Repr

/-- A library, and the user at the platform when it is not the login user. -/
structure Resolved where
  tenant : TenantId
  loginUser : Option String := none
  deriving DecidableEq, Repr

inductive Resolver where
  /-- By the port that the terminal connected to. -/
  | port (ports : List (Nat × TenantId))
  /-- By the terminal's address; the first network that contains it counts. -/
  | subnet (networks : List (Net.Network × TenantId))
  /-- By what stands before the separator in the login user; with an empty list any library. -/
  | usernameStart (separator : String) (allowed : List TenantId)
  /-- By the location code of the login. -/
  | locationCode (codes : List (String × TenantId))
  | always (phase : Phase) (tenant : TenantId)
  deriving DecidableEq, Repr

namespace Resolver

def name : Resolver → String
  | .port _ => "port"
  | subnet _ => "subnet"
  | usernameStart .. => "username_prefix"
  | locationCode _ => "location_code"
  | always .. => "default"

def phase : Resolver → Phase
  | port _ | subnet _ => .connect
  | usernameStart .. | locationCode _ => .login
  | always phase _ => phase

/-- The library and user that a login user names around a separator. -/
def splitUser? (separator user : String) (allowed : List TenantId) : Option Resolved :=
  if separator = "" then none
  else match Text.cutAt? separator.toList user.toList with
    | none => none
    | some (front, back) =>
      if back.isEmpty then none
      else match TenantId.of? (String.ofList front) with
        | none => none
        | some tenant =>
          if allowed.isEmpty || allowed.contains tenant then
            some { tenant, loginUser := some (String.ofList back) }
          else none

/-- What one resolver answers. -/
def resolve? (facts : Facts) : Resolver → Option Resolved
  | port ports => (ports.lookup facts.port).map ({ tenant := · })
  | subnet networks =>
    (networks.find? fun (network, _) => network.contains facts.peer).map fun (_, tenant) => { tenant }
  | usernameStart separator allowed =>
    facts.loginUser.bind fun user => splitUser? separator user allowed
  | locationCode codes =>
    facts.location.bind fun code => (codes.lookup (Text.trim code)).map ({ tenant := · })
  | always _ tenant => some { tenant }

end Resolver

/-- The resolvers of a gateway, in the order in which they are asked. -/
abbrev Resolvers := List Resolver

namespace Resolvers

def hasPhase (resolvers : Resolvers) (phase : Phase) : Bool :=
  resolvers.any (·.phase = phase)

def resolve? (resolvers : Resolvers) (phase : Phase) (facts : Facts) : Option Resolved :=
  (resolvers.filter (·.phase = phase)).findSome? (Resolver.resolve? facts)

end Resolvers

end SelfCheck
