import SelfCheck.Dispatch

/-! Written replies in place of the platform and of foreign handlers.

Each call takes the next reply of its kind; the reply comes after its delay on the timer clock.
-/

set_option autoImplicit false

namespace SelfCheck.Rehearsal

/-- Something that comes after a delay in milliseconds. -/
structure Timed (α : Type) where
  delay : Nat
  value : α

/-- A token that is given for some seconds from the moment of the reply on. -/
structure Grant where
  token : String
  access : Int
  refresh : Int
  deriving DecidableEq, Repr

def Grant.at (grant : Grant) (now : Time.Moment) : Token :=
  { text := grant.token
    access := now + Time.Moment.ofSeconds grant.access
    refresh := now + Time.Moment.ofSeconds grant.refresh }

abbrev LoginReply := Timed (Except PlatformError Grant)

/-- The replies that are left. -/
structure Cast where
  logins : List LoginReply := []
  platform : List (Timed (Except PlatformError Json)) := []
  /-- Handlers reply the same way each time. -/
  handlers : List (Command × Timed HandlerReply) := []

def unscripted : PlatformError := .transport "no scripted reply"

/-- The first reply that is left, and those behind it. -/
def takeReply {α : Type} (replies : List (Timed (Except PlatformError α))) :
    Timed (Except PlatformError α) × List (Timed (Except PlatformError α)) :=
  match replies with
  | [] => (⟨0, .error unscripted⟩, [])
  | reply :: later => (reply, later)

/-- The reply to the call that a request has just made. -/
def Cast.next (cast : Cast) (message : Message) (now : Time.Moment) :
    Wait → Timed Reply × Cast
  | .token _ =>
    let (reply, logins) := takeReply cast.logins
    (⟨reply.delay, .login (reply.value.map (·.at now))⟩, { cast with logins })
  | .platform _ =>
    let (reply, platform) := takeReply cast.platform
    (⟨reply.delay, .platform reply.value⟩, { cast with platform })
  | .handler =>
    match message.command.bind fun command => cast.handlers.lookup command with
    | some reply => (⟨reply.delay, .handler reply.value⟩, cast)
    | none => (⟨0, .handler { result := .ok .null }⟩, cast)

/-- What comes first. -/
inductive First where
  | reply
  | loginTimeout
  | deadline
  deriving DecidableEq, Repr

/-- What comes first, and when: of things due at the same time the reply, then the login's own
timeout. -/
def first (reply : Nat) (loginTimeout deadline : Option Nat) : Nat × First :=
  let early := match loginTimeout with
    | some time => if reply ≤ time then (reply, First.reply) else (time, .loginTimeout)
    | none => (reply, .reply)
  match deadline with
  | some time => if early.1 ≤ time then early else (time, .deadline)
  | none => early

/-- The time at which a caller's login will have taken too long. -/
def loginDeadline? (shared : Shared) (caller : Nat) : Option Nat :=
  (shared.logins.share? caller).bind (·.deadline)

end SelfCheck.Rehearsal
