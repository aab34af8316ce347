import SelfCheck.Answer
import SelfCheck.Effect
import SelfCheck.Message.Payload
import SelfCheck.Policy.Writer
import SelfCheck.Setup

/-! Handling one request, from its message to its outcome.

Handling runs in stretches. Between two of them it waits: for its turn to log in, for the platform
or for a handler of the embedding program. A stretch tells what it did and how things stand.
-/

set_option autoImplicit false

namespace SelfCheck

inductive Outcome where
  | success (command : Command) (model : Json)
  | failure (command : Option Command) (failure : Failure)
  deriving Repr

def Outcome.isSuccess : Outcome → Bool
  | success .. => true
  | failure .. => false

/-- Why a token is wanted. -/
inductive Purpose where
  | login
  | forward
  deriving DecidableEq, Repr

/-- A token that a request needs. -/
structure TokenWish where
  purpose : Purpose
  account : Account
  password : String
  deriving DecidableEq, Repr

/-- What the handling of a request waits for. -/
inductive Wait where
  | token (wish : TokenWish)
  | platform (account : Account)
  | handler
  deriving DecidableEq, Repr

/-- How the handling of a request stands. -/
inductive Stage where
  | waiting (wait : Wait)
  | finished (result : Except Failure Json)

/-- What a handler of the embedding program does: it may log the session in, and it has a result. -/
structure HandlerReply where
  credentials : Option Credentials := none
  result : Except Failure Json

/-- What a request that waits may get. -/
inductive Reply where
  /-- Nobody stands in front of the caller any more. -/
  | admitted
  | login (result : Except PlatformError Token)
  | platform (result : Except PlatformError Json)
  | handler (reply : HandlerReply)

/-- The end of a stretch. -/
structure Stretch where
  shared : Shared
  context : Context
  stage : Stage
  effects : List Effect := []

/-- A stretch with effects that come before its own. -/
def Stretch.after (effects : List Effect) (stretch : Stretch) : Stretch :=
  { stretch with effects := effects ++ stretch.effects }

namespace Dispatch

/-- A failure that is answered in the form of a refused login. -/
def refusal (cause : Cause) : Failure := { cause, answer := some (Answer.flag false) }

/-- The end of a stretch that leaves everything else as it was. -/
def rest (shared : Shared) (context : Context) (result : Except Failure Json) : Stretch :=
  { shared, context, stage := .finished result }

def fail (shared : Shared) (context : Context) (cause : Cause) : Stretch :=
  rest shared context (.error { cause })

/-- What is sent to the platform for a request. -/
def payload (context : Context) (message : Message) : Json :=
  .ofMembers [
    ("sessionId", .string context.session),
    ("message", message.toJson),
    ("station", context.station.toJson)]

/-- The request has its token, or none is to be had. -/
def granted (message : Message) (wish : TokenWish) (result : Except PlatformError Token)
    (shared : Shared) (context : Context) : Stretch :=
  match wish.purpose, result with
  | .login, .ok _ =>
    { rest shared (context.authenticate ⟨wish.account.user, wish.password⟩)
        (.ok (Answer.flag true)) with effects := [.count (.login true)] }
  | .login, .error error =>
    { rest shared context (.error (refusal (.loginRefused wish.account.user error))) with
      effects := [.count (.login false)] }
  | .forward, .error error => fail shared context (.loginLost error)
  | .forward, .ok token =>
    match message.command with
    | none => fail shared context (.unrecognized message.code)
    | some command =>
      { shared, context, stage := .waiting (.platform wish.account)
        effects := [.execute {
          tenant := wish.account.tenant
          token := token.text
          command
          payload := payload context message }] }

/-- The request may go through the gate: it finds a token there or begins a login. -/
def enter (setup : Setup) (message : Message) (wish : TokenWish) (share : Logins.Share)
    (shared : Shared) (context : Context) : Stretch :=
  match shared.logins.enter share shared.now (shared.clock + setup.loginTimeout) with
  | (some token, logins) =>
    Stretch.after [.count .tokenHit] <|
      granted message wish (.ok token) { shared with logins } context
  | (none, logins) =>
    { shared := { shared with logins }
      context
      stage := .waiting (.token wish)
      effects := [.count .tokenMiss, .login wish.account wish.password] }

/-- The request needs a token. -/
def wantToken (setup : Setup) (caller : Nat) (message : Message) (wish : TokenWish)
    (shared : Shared) (context : Context) : Stretch :=
  match shared.logins.arrive caller wish.account shared.now with
  | (some token, logins) =>
    Stretch.after [.count .tokenHit] <|
      granted message wish (.ok token) { shared with logins } context
  | (none, logins) =>
    let shared := { shared with logins }
    match logins.share? caller with
    | none => { shared, context, stage := .waiting (.token wish) }
    | some share =>
      if logins.mayEnter caller then enter setup message wish share shared context
      else { shared, context, stage := .waiting (.token wish) }

/-- The login of a request has ended, by an answer or for lack of one. -/
def loginEnded (message : Message) (wish : TokenWish) (share : Logins.Share)
    (result : Except PlatformError Token) (shared : Shared) (context : Context) : Stretch :=
  let (evicted, logins) := shared.logins.finish share result
  Stretch.after (if evicted.isSome then [.count .tokenEvicted] else []) <|
    granted message wish result { shared with logins } context

/-- The platform has answered a request; a token that it refuses is dropped. -/
def platformAnswered (setup : Setup) (message : Message) (account : Account)
    (result : Except PlatformError Json) (shared : Shared) (context : Context) : Stretch :=
  match result with
  | .ok answer =>
    match message.command with
    | none => fail shared context (.unrecognized message.code)
    | some command =>
      let now := setup.localTime shared.now
      rest shared context (.ok (Answer.complete command message now answer))
  | .error .unauthorized =>
    fail { shared with logins := shared.logins.invalidate account } context .tokenRefused
  | .error error => fail shared context (.platform error)

/-- A handler of the embedding program has answered. -/
def handlerAnswered (reply : HandlerReply) (shared : Shared) (context : Context) : Stretch :=
  let context := match reply.credentials with
    | some credentials => context.authenticate credentials
    | none => context
  rest shared context reply.result

/-! The handlers. -/

/-- A session that has no library yet, or found it at a login, asks the resolvers at every login.
The second part is the user at the platform. -/
def resolveLogin (setup : Setup) (policy : Policy) (user : String) (message : Message)
    (context : Context) : Except Cause (Context × String) :=
  if context.tenant.isSome && context.resolvedAt ≠ some .login then .ok (context, user)
  else
    let facts := { context.facts with loginUser := some user, location := message.field? "CP" }
    match setup.resolvers.resolve? .login facts with
    | none => .error (.unresolved context.session)
    | some resolved => do
      let context ← context.bindAndAdopt resolved.tenant .login policy
      return (context, resolved.loginUser.getD user)

def login (setup : Setup) (caller : Nat) (message : Message) (shared : Shared)
    (context : Context) : Stretch :=
  let user := Text.trim ((message.field? "CN").getD "")
  if user = "" then rest shared context (.error (refusal .namelessLogin))
  else match resolveLogin setup shared.policy user message context with
    | .error cause => rest shared context (.error (refusal cause))
    | .ok (context, user) =>
      match context.tenant with
      | none => rest shared context (.error (refusal (.unresolved context.session)))
      | some tenant =>
        let wish : TokenWish := ⟨.login, ⟨tenant, user⟩, (message.field? "CO").getD ""⟩
        wantToken setup caller message wish shared context

def status (setup : Setup) (shared : Shared) (context : Context) : Stretch :=
  match context.tenant with
  | none => fail shared context (.unresolved context.session)
  | some tenant =>
    rest shared context (.ok (Answer.status tenant (shared.policy.profile tenant).acs
      context.station (setup.localTime shared.now)))

def forward (setup : Setup) (caller : Nat) (message : Message) (shared : Shared)
    (context : Context) : Stretch :=
  match context.tenant, context.credentials with
  | none, _ => fail shared context (.unresolved context.session)
  | some _, none => fail shared context .notLoggedIn
  | some tenant, some credentials =>
    let wish : TokenWish := ⟨.forward, ⟨tenant, credentials.user⟩, credentials.password⟩
    wantToken setup caller message wish shared context

/-- Begin to handle a request. -/
def start (setup : Setup) (caller : Nat) (message : Message) (shared : Shared)
    (context : Context) : Stretch :=
  match message.command.bind fun command => setup.handlers.lookup command with
  | none => fail shared context (.unrecognized message.code)
  | some .login => login setup caller message shared context
  | some .status => status setup shared context
  | some .forward => forward setup caller message shared context
  | some .foreign =>
    { shared, context, stage := .waiting .handler, effects := [.handle message.code] }

/-- Go on with a request that waits, if it waits for this. -/
def resume? (setup : Setup) (caller : Nat) (message : Message) (wait : Wait) (shared : Shared)
    (context : Context) (reply : Reply) : Option Stretch :=
  match wait, reply with
  | .token wish, .admitted =>
    (shared.logins.share? caller).bind fun share =>
      if shared.logins.mayEnter caller then some (enter setup message wish share shared context)
      else none
  | .token wish, .login result =>
    (shared.logins.share? caller).bind fun share =>
      if share.deadline.isSome then some (loginEnded message wish share result shared context)
      else none
  | .platform account, .platform result =>
    some (platformAnswered setup message account result shared context)
  | .handler, .handler reply => some (handlerAnswered reply shared context)
  | _, _ => none

/-- The outcome of a request with a result. -/
def outcome (message : Message) : Except Failure Json → Outcome
  | .error failure => .failure message.command failure
  | .ok model =>
    match message.command with
    | some command => .success command model
    | none => .failure none { cause := .unrecognized message.code }

end Dispatch

end SelfCheck
