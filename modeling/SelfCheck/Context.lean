import SelfCheck.Failure
import SelfCheck.Policy
import SelfCheck.Resolver

/-! What a session knows about its terminal. -/

set_option autoImplicit false

namespace SelfCheck

inductive Standing where
  | connecting
  | awaitingLogin
  | authenticated
  | closed
  deriving DecidableEq, Repr

def Standing.name : Standing → String
  | connecting => "connecting"
  | awaitingLogin => "awaiting_login"
  | authenticated => "authenticated"
  | closed => "closed"

/-- What a successful login used at the platform. -/
structure Credentials where
  user : String
  password : String
  deriving DecidableEq, Repr

structure Context where
  /-- The session's name. -/
  session : String
  peer : Net.SocketAddress
  port : Nat
  standing : Standing := .connecting
  tenant : Option TenantId := none
  /-- The phase in which the library was found. -/
  resolvedAt : Option Phase := none
  credentials : Option Credentials := none
  settings : WireSettings := {}
  station : Station := {}
  /-- The station of profiles that have none of their own. -/
  gatewayStation : Station := {}
  deriving DecidableEq, Repr

namespace Context

def start (session : String) (peer : Net.SocketAddress) (port : Nat) (settings : WireSettings)
    (station : Station) : Context :=
  { session, peer, port, settings, station, gatewayStation := station }

def isAuthenticated (context : Context) : Bool := context.standing = .authenticated

/-- What resolvers may look at before anything is read. -/
def facts (context : Context) : Facts := { port := context.port, peer := context.peer.ip }

/-- Bind the session to a library, once and for all. -/
def bind (context : Context) (tenant : TenantId) : Except Cause Context :=
  match context.tenant with
  | none => .ok { context with tenant := some tenant }
  | some bound =>
    if bound = tenant then .ok context
    else .error (.boundElsewhere context.session bound tenant)

/-- Take over the wire settings and the station of a profile. -/
def adopt (context : Context) (profile : Profile) : Context :=
  { context with
    settings := profile.session
    station := profile.station.getD context.gatewayStation }

/-- Bind the session, and take over the library's profile if the policy has one. -/
def bindAndAdopt (context : Context) (tenant : TenantId) (phase : Phase) (policy : Policy) :
    Except Cause Context := do
  let bound ← context.bind tenant
  let placed := { bound with resolvedAt := bound.resolvedAt.or (some phase) }
  return match policy.profile? tenant with
    | some profile => placed.adopt profile
    | none => placed

def awaitLogin (context : Context) : Context :=
  if context.standing = .connecting then { context with standing := .awaitingLogin } else context

def authenticate (context : Context) (credentials : Credentials) : Context :=
  { context with credentials := some credentials, standing := .authenticated }

def close (context : Context) : Context := { context with standing := .closed }

theorem bind_eq_ok {context bound : Context} {tenant : TenantId}
    (done : context.bind tenant = .ok bound) :
    bound = { context with tenant := some tenant } ∧
      (context.tenant = none ∨ context.tenant = some tenant) := by
  simp only [bind] at done
  split at done
  · next free => simp_all
  · next taken =>
    split at done
    · next same =>
      subst same
      simp only [Except.ok.injEq] at done
      subst done
      exact ⟨by rw [← taken], .inr taken⟩
    · simp at done

end Context

end SelfCheck
