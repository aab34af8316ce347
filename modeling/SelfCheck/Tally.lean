import SelfCheck.Command
import SelfCheck.Frame.Error
import SelfCheck.Sorted

/-! What a gateway counts.

Each thing worth counting is a tally. Metrics and the totals of a port are sums over the tallies
made so far.
-/

set_option autoImplicit false

namespace SelfCheck

inductive Tally where
  | sessionStarted
  | sessionEnded
  | sessionCounted
  | socketError
  | requestError
  | responseError
  | resend
  | invalidMessage
  | malformed (kind : Malformation)
  /-- An answer written; a code that names no command has a label of its own. -/
  | answered (command : Option Command)
  | idleTimeout
  | unresolved
  | tokenHit
  | tokenMiss
  | tokenEvicted
  | login (accepted : Bool)
  | policyReload (accepted : Bool)
  | connection
  deriving DecidableEq, Repr

namespace Tally

/-- A tally's metric: its name, and its labels in their order. -/
structure Metric where
  name : String
  labels : List (String × String) := []
  deriving DecidableEq, Repr

def commandLabel : Option Command → String
  | some command => command.name
  | none => "UNKNOWN"

/-- The name of a metric behind the part that all names share. -/
def shortName : Tally → String
  | sessionStarted | sessionEnded => "active_sessions"
  | sessionCounted => "sessions_total"
  | socketError => "socket_errors_total"
  | requestError => "request_errors_total"
  | responseError => "response_errors_total"
  | resend => "resends_total"
  | invalidMessage => "invalid_messages_total"
  | malformed _ => "malformed_messages_total"
  | answered _ => "command_duration_seconds"
  | idleTimeout => "idle_timeouts_total"
  | unresolved => "tenant_not_resolved_total"
  | tokenHit => "token_cache_hits_total"
  | tokenMiss => "token_cache_misses_total"
  | tokenEvicted => "token_cache_evictions_total"
  | login _ => "logins_total"
  | policyReload true => "tenant_config_reloads_total"
  | policyReload false => "tenant_config_reload_failures_total"
  | connection => "connections_total"

/-- Labels other than the port. -/
def ownLabels : Tally → List (String × String)
  | malformed kind => [("kind", kind.name)]
  | answered command => [("command", commandLabel command)]
  | login accepted => [("outcome", if accepted then "ok" else "rejected")]
  | _ => []

/-- Whether a metric is kept apart for each port. -/
def isPerPort : Tally → Bool
  | idleTimeout | unresolved | tokenHit | tokenMiss | tokenEvicted | login _ | policyReload _ =>
    false
  | _ => true

def metric (port : Nat) (tally : Tally) : Metric :=
  { name := "sip2_gateway_" ++ tally.shortName
    labels := tally.ownLabels ++ if tally.isPerPort then [("port", toString port)] else [] }

/-- What a tally adds to its metric. -/
def weight : Tally → Int
  | sessionEnded => -1
  | _ => 1

def Metric.text (metric : Metric) : String :=
  metric.name ++ "\x7b" ++
    ",".intercalate (metric.labels.map fun (label, value) => label ++ "=" ++ value) ++ "\x7d"

/-- Tallies with the port they were made at, in the order in which they were made. -/
abbrev Log := List (Nat × Tally)

def addTo (counters : List (String × Int)) (entry : Nat × Tally) : List (String × Int) :=
  let name := (metric entry.1 entry.2).text
  Sorted.put name ((counters.lookup name).getD 0 + entry.2.weight) counters

/-- Every metric that was touched, with its value. -/
def counters (log : Log) : List (String × Int) := log.foldl addTo []

/-- The counters of one port. -/
inductive Counter where
  | sessions
  | socketErrors
  | requestErrors
  | responseErrors
  | resends
  | invalidMessages
  | badChecksums
  | missingDelimiters
  | otherMalformed
  deriving DecidableEq, Repr

namespace Counter

def all : List Counter :=
  [sessions, socketErrors, requestErrors, responseErrors, resends, invalidMessages, badChecksums,
    missingDelimiters, otherMalformed]

def name : Counter → String
  | sessions => "sessions"
  | socketErrors => "socket_errors"
  | requestErrors => "request_errors"
  | responseErrors => "response_errors"
  | resends => "resends"
  | invalidMessages => "invalid_messages"
  | badChecksums => "bad_checksums"
  | missingDelimiters => "missing_delimiters"
  | otherMalformed => "other_malformed"

end Counter

/-- The counter of its port that a tally moves. -/
def counter? : Tally → Option Counter
  | sessionCounted => some .sessions
  | socketError => some .socketErrors
  | requestError => some .requestErrors
  | responseError => some .responseErrors
  | resend => some .resends
  | invalidMessage => some .invalidMessages
  | malformed .badChecksum => some .badChecksums
  | malformed .missingDelimiter => some .missingDelimiters
  | malformed _ => some .otherMalformed
  | _ => none

/-- The value of a counter after some tallies at its port. -/
def total (counter : Counter) (tallies : List Tally) : Nat :=
  tallies.countP (·.counter? = some counter)

theorem total_append (counter : Counter) (earlier later : List Tally) :
    total counter (earlier ++ later) = total counter earlier + total counter later :=
  List.countP_append

/-- The tallies made at one port. -/
def atPort (port : Nat) (log : Log) : List Tally :=
  (log.filter (·.1 = port)).map (·.2)

end Tally

end SelfCheck
