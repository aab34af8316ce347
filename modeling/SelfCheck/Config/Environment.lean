import SelfCheck.Config
import SelfCheck.Text.Blank
import SelfCheck.Text.Numeral

/-! What the environment changes in a configuration.

A variable that is missing or blank changes nothing, and neither does one that cannot be read.
-/

set_option autoImplicit false

namespace SelfCheck

/-- The variables of an environment. -/
abbrev Environment := List (String × String)

namespace Environment

/-- A variable's text without white space around it, unless nothing is left. -/
def text? (environment : Environment) (name : String) : Option String :=
  ((environment.lookup name).map Text.trim).filter (· ≠ "")

def number? (environment : Environment) (name : String) : Option Nat :=
  (environment.text? name).bind fun text => Text.readBounded? Text.maxWord text.toList

/-- A number other than zero. -/
def size? (environment : Environment) (name : String) : Option Nat :=
  (environment.number? name).filter (0 < ·)

/-- A number of seconds; less than one does not count. -/
def seconds? (environment : Environment) (name : String) : Option Nat :=
  (environment.number? name).map (max · 1)

def readSwitch? (text : String) : Option Bool :=
  let word := Text.lowerAscii text
  if ["1", "true", "yes", "on"].contains word then some true
  else if ["0", "false", "no", "off"].contains word then some false
  else none

def switch? (environment : Environment) (name : String) : Option Bool :=
  (environment.text? name).bind readSwitch?

end Environment

/-- A configuration with the changes of an environment. A list of places that names none leaves
none. -/
def Config.override (config : Config) (environment : Environment) : Config :=
  { config with
    listen := ((environment.text? "SIP2_LISTEN").map Text.commaItems).getD config.listen
    idleTimeout := (environment.number? "SIP2_IDLE_TIMEOUT_SECS").getD config.idleTimeout
    requestTimeout :=
      (environment.seconds? "SIP2_UPSTREAM_TIMEOUT_SECS").getD config.requestTimeout
    maxFrame := (environment.size? "SIP2_MAX_FRAME_BYTES").getD config.maxFrame
    metricsBind := (environment.text? "SIP2_METRICS_BIND").or config.metricsBind
    healthBind := (environment.text? "SIP2_HEALTH_BIND").or config.healthBind
    baseUrl := (environment.text? "SIP2_PLATFORM_BASE_URL").or config.baseUrl
    capacity := (environment.size? "SIP2_TOKEN_CACHE_CAPACITY").getD config.capacity
    policySource := (environment.text? "SIP2_TENANTS_SOURCE").or config.policySource
    refresh := (environment.seconds? "SIP2_TENANTS_REFRESH_SECS").getD config.refresh
    session := { config.session with
      errorDetection :=
        (environment.switch? "SIP2_ERROR_DETECTION").getD config.session.errorDetection
      closeOnEndSession :=
        (environment.switch? "SIP2_CLOSE_ON_END_SESSION").getD config.session.closeOnEndSession } }

end SelfCheck
