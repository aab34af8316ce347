import SelfCheck.Tenant

/-! What a library allows at its terminals.

The policy of all libraries is one document, installed as a whole. A library that it does not name
has the empty profile.
-/

set_option autoImplicit false

namespace SelfCheck

/-- What a library supports. -/
structure AcsPolicy where
  statusUpdateOk : Bool := false
  offlineOk : Bool := false
  alwaysCheckPatronPassword : Bool := false
  usePinForPatronVerification : Bool := false
  patronPasswordVerificationRequired : Bool := false
  invalidCheckinStatuses : List String := []
  /-- In the order of the commands, each once. -/
  supported : List Command := []
  deriving DecidableEq, Repr

/-- What a terminal is told about its station. -/
structure Station where
  retriesAllowed : UInt16 := 3
  /-- In tenths of a second. -/
  timeoutPeriod : UInt16 := 100
  checkinOk : Bool := true
  checkoutOk : Bool := true
  acsRenewalPolicy : Bool := false
  libraryName : String := ""
  terminalLocation : String := ""
  deriving DecidableEq, Repr

/-- How frames look on a session's wire. -/
structure WireSettings where
  errorDetection : Bool := true
  fieldDelimiter : Char := '|'
  messageDelimiter : Char := '\r'
  closeOnEndSession : Bool := false
  deriving DecidableEq, Repr

/-- The policy of one library; without a station of its own the gateway's applies. -/
structure Profile where
  acs : AcsPolicy := {}
  station : Option Station := none
  session : WireSettings := {}
  deriving DecidableEq, Repr

/-- The policy of all libraries, in the order of their names. -/
structure Policy where
  tenants : List (TenantId × Profile) := []
  deriving DecidableEq, Repr

namespace Policy

/-- Words that switch a message on. -/
def isAffirmative (flag : String) : Bool :=
  ["y", "yes", "true", "1"].contains (Text.lowerAscii (Text.trim flag))

/-- The commands that are named with an affirmative flag; other names mean nothing. -/
def supportedCommands (flags : List (String × String)) : List Command :=
  let named := (flags.filter fun (_, flag) => isAffirmative flag).filterMap fun (name, _) =>
    (Command.ofName name).toOption
  Command.all.filter named.contains

end Policy

namespace AcsPolicy

def supports (policy : AcsPolicy) (command : Command) : Bool := policy.supported.contains command

/-- The order of the flags in a status answer. -/
def flagOrder : List Command :=
  [.patronStatusRequest, .checkout, .checkin, .blockPatron, .scStatus, .requestAcsResend, .login,
    .patronInformation, .endPatronSession, .feePaid, .itemInformation, .itemStatusUpdate,
    .patronEnable, .hold, .renew, .renewAll]

theorem mem_flagOrder (command : Command) : command ∈ flagOrder := by cases command <;> decide

/-- What a status answer says about a command: session control is always supported. -/
def flag (policy : AcsPolicy) (command : Command) : Char :=
  if command.isSessionControl || policy.supports command then 'Y' else 'N'

def flags (policy : AcsPolicy) : String := String.ofList (flagOrder.map policy.flag)

end AcsPolicy

namespace Policy

def contains (policy : Policy) (tenant : TenantId) : Bool :=
  policy.tenants.any fun (known, _) => known = tenant

def profile? (policy : Policy) (tenant : TenantId) : Option Profile :=
  policy.tenants.lookup tenant

def profile (policy : Policy) (tenant : TenantId) : Profile := (policy.profile? tenant).getD {}

end Policy

end SelfCheck
