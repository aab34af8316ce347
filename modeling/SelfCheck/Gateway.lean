import SelfCheck.Session

/-! A gateway: its sessions, and what they share.

A gateway makes one step for each thing that happens to it. Time is among these things. It does not
pass a deadline that has not been served, but at a deadline a reply may still come first.
-/

set_option autoImplicit false

namespace SelfCheck

structure Gateway where
  setup : Setup
  shared : Shared
  /-- Sessions by number, also those that are over. -/
  sessions : List (Nat × Session) := []

namespace Gateway

inductive Event where
  /-- A terminal has connected. -/
  | connected (name : String) (peer : Net.SocketAddress) (port : Nat)
  /-- Something has happened to one session. -/
  | signal (number : Nat) (signal : Session.Signal)
  | policyReplaced (policy : Policy)
  | invalidated (account : Account)
  | wallClockSet (now : Time.Moment)
  /-- Time has passed on the timer clock. -/
  | elapsed (milliseconds : Nat)

/-- The times until which a session waits. -/
def deadlines (setup : Setup) (session : Session) : List Nat :=
  match session.activity with
  | .reading since => if setup.idleTimeout = 0 then [] else [since + setup.idleTimeout]
  | .handling _ _ deadline => [deadline]
  | .over _ => []

/-- All times until which somebody waits. -/
def pendingDeadlines (gateway : Gateway) : List Nat :=
  (gateway.sessions.flatMap fun (_, session) => deadlines gateway.setup session) ++
    gateway.shared.logins.shares.filterMap (·.deadline)

/-- Put a session's turn into the gateway. -/
def accept (gateway : Gateway) (number : Nat) (turn : Turn) : Gateway × List (Nat × Effect) :=
  ({ gateway with
      shared := turn.shared
      sessions := Sorted.put number turn.session gateway.sessions },
    turn.effects.map (number, ·))

/-- One step; none when the event cannot happen. Effects come with the session that has them. -/
def step (gateway : Gateway) : Event → Option (Gateway × List (Nat × Effect))
  | .connected name peer port =>
    some (gateway.accept gateway.sessions.length
      (Session.start gateway.setup gateway.shared name peer port))
  | .signal number signal =>
    (gateway.sessions.lookup number).bind fun session =>
      (session.step? gateway.setup number gateway.shared signal).map (gateway.accept number)
  | .policyReplaced policy =>
    some ({ gateway with shared := { gateway.shared with policy } }, [])
  | .invalidated account =>
    let logins := gateway.shared.logins.invalidate account
    some ({ gateway with shared := { gateway.shared with logins } }, [])
  | .wallClockSet now => some ({ gateway with shared := { gateway.shared with now } }, [])
  | .elapsed milliseconds =>
    let clock := gateway.shared.clock + milliseconds
    if gateway.pendingDeadlines.all (clock ≤ ·) then
      some ({ gateway with shared := { gateway.shared with clock } }, [])
    else none

/-- A gateway before its first terminal. -/
def initial (setup : Setup) (policy : Policy) (capacity : Nat) (now : Time.Moment) : Gateway :=
  { setup, shared := { policy, logins := .empty capacity, now } }

/-- A run of a gateway with the events and effects on the way, the latest last. -/
inductive Run (start : Gateway) : List Event → Gateway → List (Nat × Effect) → Prop where
  | none : Run start [] start []
  | more {events : List Event} {before after : Gateway} {event : Event}
      {earlier later : List (Nat × Effect)} : Run start events before earlier →
      before.step event = some (after, later) →
      Run start (events ++ [event]) after (earlier ++ later)

end Gateway

end SelfCheck
