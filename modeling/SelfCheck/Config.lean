import SelfCheck.Policy
import SelfCheck.Resolver.Spec

/-! The configuration of a gateway. -/

set_option autoImplicit false

namespace SelfCheck

/-- Times are in seconds. -/
structure Config where
  listen : List String
  idleTimeout : Nat
  requestTimeout : Nat
  maxFrame : Nat
  metricsBind : Option String
  healthBind : Option String
  /-- Where the library platform is. -/
  baseUrl : Option String
  /-- How many tokens are kept. -/
  capacity : Nat
  /-- Where the policy document is. -/
  policySource : Option String
  refresh : Nat
  /-- The station of libraries without a profile. -/
  station : Station
  /-- The wire settings of libraries without a profile. -/
  session : WireSettings
  resolvers : List ResolverSpec
  deriving Repr

end SelfCheck
