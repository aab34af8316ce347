import SelfCheck.Context
import SelfCheck.Template.Bundled
import SelfCheck.Token.Logins

/-! What a gateway is set up with, and what its sessions share. -/

set_option autoImplicit false

namespace SelfCheck

/-- Who answers a command. -/
inductive Handler where
  /-- Logs the session in. -/
  | login
  /-- Answers from the policy and the station. -/
  | status
  /-- Forwards the request to the platform. -/
  | forward
  /-- Belongs to the embedding program. -/
  | foreign
  deriving DecidableEq, Repr

namespace Handler

/-- Who answers a command unless the embedding program says otherwise. -/
def stock? : Command → Option Handler
  | .login => some .login
  | .scStatus => some .status
  | .requestAcsResend => none
  | _ => some .forward

def stock : List (Command × Handler) :=
  Command.all.filterMap fun command => (stock? command).map (command, ·)

theorem lookup_stock (command : Command) : stock.lookup command = stock? command := by
  cases command <;> rfl

/-- A table of handlers as listings show it. -/
def listing (handlers : List (Command × Handler)) : String :=
  let commands := Command.all.filter fun command => (handlers.lookup command).isSome
  "Dispatcher \x7b commands: [" ++ ", ".intercalate (commands.map Command.title) ++ "] \x7d"

end Handler

/-- What stays the same for the life of a gateway. Times are in milliseconds. -/
structure Setup where
  resolvers : Resolvers := []
  templates : Templates := Templates.bundled
  handlers : List (Command × Handler) := Handler.stock
  /-- With zero a terminal may be silent for ever. -/
  idleTimeout : Nat := 300000
  requestTimeout : Nat := 15000
  maxFrame : Nat := 16384
  /-- The wire settings of sessions without a profile. -/
  settings : WireSettings := {}
  /-- The station of sessions without a profile. -/
  station : Station := {}
  /-- How many seconds east of the Unix clock the gateway's zone is at a moment. -/
  zone : Time.Moment → Int := fun _ => 0

/-- A login has three quarters of the time that a request has; timers count whole milliseconds. -/
def Setup.loginTimeout (setup : Setup) : Nat := (setup.requestTimeout * 3 + 3) / 4

/-- What a clock in the gateway's zone shows. -/
def Setup.localTime (setup : Setup) (now : Time.Moment) : Time.Moment := now.east (setup.zone now)

/-- What the sessions of a gateway share. -/
structure Shared where
  policy : Policy := {}
  logins : Logins
  /-- The wall clock. -/
  now : Time.Moment
  /-- The timer clock, in milliseconds. -/
  clock : Nat := 0
  deriving Repr

end SelfCheck
