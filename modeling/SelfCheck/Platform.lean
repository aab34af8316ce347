import SelfCheck.Json
import SelfCheck.Tenant
import SelfCheck.Time.Stamp

/-! The library platform behind the gateway: what it is asked and what it answers. -/

set_option autoImplicit false

namespace SelfCheck

/-- Leave to act for a user, until its expirations. -/
structure Token where
  text : String
  access : Time.Moment
  refresh : Time.Moment
  deriving DecidableEq, Repr

/-- From the moment of its expiration on a token is stale. -/
def Token.isStale (token : Token) (now : Time.Moment) : Bool := token.access ≤ now

inductive PlatformError where
  | unauthorized
  | status (code : Nat) (detail : String)
  | transport (detail : String)
  | decode (detail : String)
  | timeout
  deriving DecidableEq, Repr

def PlatformError.message : PlatformError → String
  | unauthorized => "platform rejected credentials"
  | status code detail => "platform returned status " ++ toString code ++ ": " ++ detail
  | transport detail => "platform transport error: " ++ detail
  | decode detail => "platform response could not be decoded: " ++ detail
  | timeout => "platform call timed out"

/-- A user of a library at the platform. -/
structure Account where
  tenant : TenantId
  user : String
  deriving DecidableEq, Repr

/-- A request that is forwarded to the platform. -/
structure PlatformRequest where
  tenant : TenantId
  token : String
  command : Command
  payload : Json
  deriving Repr

/-- What listings show in place of a secret. -/
def redacted : String := "<redacted>"

def quotedSecret : String := "SecretString(" ++ redacted ++ ")"

end SelfCheck
