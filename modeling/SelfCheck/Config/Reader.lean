import SelfCheck.Config
import SelfCheck.Policy.Reader
import SelfCheck.Text.Utf8
import SelfCheck.Toml.Reader

/-! Configuration files.

A file has sections, and may leave out every one of them and every member. What is left out has a
default, and so has a text that is blank and a size of zero.
-/

set_option autoImplicit false

namespace SelfCheck

open SelfCheck.Tree

namespace Config

def defaultListen : String := "tcp://0.0.0.0:6443"

def defaultIdleTimeout : Nat := 300

def defaultRequestTimeout : Nat := 15

def defaultMaxFrame : Nat := 16384

def defaultCapacity : Nat := 1024

def defaultRefresh : Nat := 60

/-- The places to listen at that are named, or the default one. -/
def listenPlaces (listen : List String) : List String :=
  match (listen.map Text.trim).filter (· ≠ "") with
  | [] => [defaultListen]
  | places => places

/-- A size, where zero stands for the default. -/
def sizeOr (default : Nat) (size : Option Nat) : Nat := (size.filter (0 < ·)).getD default

/-- A number of seconds; less than one does not count. -/
def secondsOr (default : Nat) (seconds : Option Nat) : Nat := max (seconds.getD default) 1

/-- A text that is not blank, as it is written. -/
def named (text : Option String) : Option String := text.bind Text.nonBlank?

/-- Delimiters are the first characters of their texts. -/
def delimiterOr (default : Char) (text : Option String) : Char :=
  (text.bind fun s => s.toList.head?).getD default

def word? : Tree → Option Nat := nat? Text.maxWord

/-- The members of a section. -/
def section? (names : List String) (tree : Tree) : Option Fields := tree.fields? .ignored names

/-- What the file says about listening and its limits. -/
structure ServerSection where
  listen : List String := []
  idleTimeout : Option Nat := none
  requestTimeout : Option Nat := none
  maxFrame : Option Nat := none
  metricsBind : Option String := none
  healthBind : Option String := none

def ServerSection.ofTree? (tree : Tree) : Option ServerSection := do
  let fields ← section? ["listen", "idle_timeout_secs", "upstream_timeout_secs", "max_frame_bytes",
    "metrics_bind", "health_bind"] tree
  let listen ← fields.withDefault "listen" (listOf text?) []
  let idleTimeout ← fields.optional "idle_timeout_secs" word?
  let requestTimeout ← fields.optional "upstream_timeout_secs" word?
  let maxFrame ← fields.optional "max_frame_bytes" word?
  let metricsBind ← fields.optional "metrics_bind" text?
  let healthBind ← fields.optional "health_bind" text?
  return { listen, idleTimeout, requestTimeout, maxFrame, metricsBind, healthBind }

def baseUrl? (tree : Tree) : Option (Option String) := do
  (← section? ["base_url"] tree).optional "base_url" text?

def capacity? (tree : Tree) : Option (Option Nat) := do
  (← section? ["capacity"] tree).optional "capacity" word?

def source? (tree : Tree) : Option (Option String × Option Nat) := do
  let fields ← section? ["source", "refresh_secs"] tree
  let source ← fields.optional "source" text?
  let refresh ← fields.optional "refresh_secs" word?
  return (source, refresh)

def station? (tree : Tree) : Option Station := do
  let default : Station := {}
  let fields ← section? ["retries_allowed", "timeout_period", "checkin_ok", "checkout_ok",
    "acs_renewal_policy", "library_name", "terminal_location"] tree
  let retriesAllowed ← fields.optional "retries_allowed" word16?
  let timeoutPeriod ← fields.optional "timeout_period" word16?
  let checkinOk ← fields.optional "checkin_ok" bool?
  let checkoutOk ← fields.optional "checkout_ok" bool?
  let acsRenewalPolicy ← fields.optional "acs_renewal_policy" bool?
  let libraryName ← fields.optional "library_name" text?
  let terminalLocation ← fields.optional "terminal_location" text?
  return {
    retriesAllowed := retriesAllowed.getD default.retriesAllowed
    timeoutPeriod := timeoutPeriod.getD default.timeoutPeriod
    checkinOk := checkinOk.getD default.checkinOk
    checkoutOk := checkoutOk.getD default.checkoutOk
    acsRenewalPolicy := acsRenewalPolicy.getD default.acsRenewalPolicy
    libraryName := libraryName.getD default.libraryName
    terminalLocation := terminalLocation.getD default.terminalLocation }

def session? (tree : Tree) : Option WireSettings := do
  let default : WireSettings := {}
  let fields ← section? ["error_detection_enabled", "field_delimiter", "message_delimiter",
    "close_on_end_session"] tree
  let errorDetection ← fields.optional "error_detection_enabled" bool?
  let fieldDelimiter ← fields.optional "field_delimiter" text?
  let messageDelimiter ← fields.optional "message_delimiter" text?
  let closeOnEndSession ← fields.optional "close_on_end_session" bool?
  return {
    errorDetection := errorDetection.getD default.errorDetection
    fieldDelimiter := delimiterOr default.fieldDelimiter fieldDelimiter
    messageDelimiter := delimiterOr default.messageDelimiter messageDelimiter
    closeOnEndSession := closeOnEndSession.getD default.closeOnEndSession }

/-- The configuration of what a file says. -/
def build (server : ServerSection) (baseUrl : Option String) (capacity : Option Nat)
    (source : Option String × Option Nat) (station : Station) (session : WireSettings)
    (resolvers : List ResolverSpec) : Config :=
  { listen := listenPlaces server.listen
    idleTimeout := server.idleTimeout.getD defaultIdleTimeout
    requestTimeout := secondsOr defaultRequestTimeout server.requestTimeout
    maxFrame := sizeOr defaultMaxFrame server.maxFrame
    metricsBind := named server.metricsBind
    healthBind := named server.healthBind
    baseUrl := named baseUrl
    capacity := sizeOr defaultCapacity capacity
    policySource := named source.1
    refresh := secondsOr defaultRefresh source.2
    station, session, resolvers }

def ofTree? (tree : Tree) : Option Config := do
  let fields ← section? ["server", "platform", "token_cache", "tenants", "station", "session",
    "resolvers"] tree
  let server ← fields.withDefault "server" ServerSection.ofTree? {}
  let baseUrl ← fields.withDefault "platform" baseUrl? none
  let capacity ← fields.withDefault "token_cache" capacity? none
  let source ← fields.withDefault "tenants" source? (none, none)
  let station ← fields.withDefault "station" station? {}
  let session ← fields.withDefault "session" session? {}
  let resolvers ← fields.withDefault "resolvers" (listOf ResolverSpec.ofTree?) []
  return build server baseUrl capacity source station session resolvers

/-- The configuration of a text. -/
def ofText? (text : String) : Option Config := (Toml.tree? text).bind ofTree?

/-- The configuration when there is no file. -/
def standard : Config := build {} none none (none, none) {} {} []

/-- The configuration of a file's bytes, if there is a file. -/
def ofFile? : Option (List UInt8) → Option Config
  | none => some standard
  | some bytes => (Text.decode? bytes).bind ofText?

end Config

/-- The policy of a TOML document. -/
def Policy.ofTomlText? (text : String) : Option Policy :=
  (Toml.tree? text).bind (Policy.ofTree? .ignored)

end SelfCheck
