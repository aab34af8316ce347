import SelfCheck.Dispatch
import SelfCheck.Session

/-! What the gateway's own handlers do to a session.

A request waits for a token or for the platform. While it does, the context already says for which
account: the library is bound, and for a forwarded request somebody is logged in.
-/

set_option autoImplicit false

namespace SelfCheck

/-- Whether a request is one that the policy can switch off. -/
def Message.isBusiness (message : Message) : Bool :=
  message.command.any fun command => !command.isSessionControl

theorem Message.isBusiness_of_command {message : Message} {command : Command}
    (named : message.command = some command) :
    message.isBusiness = !command.isSessionControl := by
  simp [isBusiness, named]

theorem Message.command_of_business {message : Message} (business : message.isBusiness = true) :
    ∃ command, message.command = some command ∧ command.isSessionControl = false := by
  cases named : message.command with
  | none => simp [isBusiness, named] at business
  | some command => exact ⟨command, rfl, by simpa [isBusiness, named] using business⟩

theorem Message.not_business_of_login {message : Message}
    (login : message.command = some .login) : ¬message.isBusiness = true := by
  rw [isBusiness_of_command login]
  decide

namespace Context

/-- Whoever is logged in is so at a library and with credentials. -/
def Grounded (context : Context) : Prop :=
  context.isAuthenticated = true →
    context.tenant.isSome = true ∧ context.credentials.isSome = true

/-- A context while a request waits. -/
def Awaits (context : Context) (message : Message) : Wait → Prop
  | .token wish =>
    context.tenant = some wish.account.tenant ∧
      match wish.purpose with
      | .login =>
        message.command = some .login ∧ wish.password = (message.field? "CO").getD ""
      | .forward =>
        message.isBusiness = true ∧ context.isAuthenticated = true ∧
          context.credentials = some ⟨wish.account.user, wish.password⟩
  | .platform account =>
    message.isBusiness = true ∧ context.isAuthenticated = true ∧
      context.tenant = some account.tenant ∧
      ∃ password, context.credentials = some ⟨account.user, password⟩
  | .handler => False

theorem bindAndAdopt_eq_ok {context bound : Context} {tenant : TenantId} {phase : Phase}
    {policy : Policy} (done : context.bindAndAdopt tenant phase policy = .ok bound) :
    bound.tenant = some tenant ∧ bound.standing = context.standing ∧
      bound.credentials = context.credentials ∧
      bound.resolvedAt = context.resolvedAt.or (some phase) ∧
      (context.tenant = none ∨ context.tenant = some tenant) := by
  unfold bindAndAdopt at done
  cases first : context.bind tenant with
  | error cause =>
    rw [first] at done
    cases done
  | ok placed =>
    rw [first] at done
    obtain ⟨rfl, free⟩ := bind_eq_ok first
    cases known : policy.profile? tenant <;> simp only [known] at done <;> cases done
    · exact ⟨rfl, rfl, rfl, rfl, free⟩
    · exact ⟨rfl, rfl, rfl, rfl, free⟩

/-- A library is refused only for the sake of another. -/
theorem bind_eq_error {context : Context} {tenant : TenantId} {cause : Cause}
    (fails : context.bind tenant = .error cause) :
    ∃ bound, cause = .boundElsewhere context.session bound tenant := by
  unfold bind at fails
  split at fails
  · cases fails
  · split at fails
    · cases fails
    · cases fails
      exact ⟨_, rfl⟩

theorem bindAndAdopt_eq_error {context : Context} {tenant : TenantId} {phase : Phase}
    {policy : Policy} {cause : Cause}
    (fails : context.bindAndAdopt tenant phase policy = .error cause) :
    ∃ bound, cause = .boundElsewhere context.session bound tenant := by
  unfold bindAndAdopt at fails
  cases first : context.bind tenant with
  | error other =>
    rw [first] at fails
    cases fails
    exact bind_eq_error first
  | ok placed =>
    rw [first] at fails
    cases fails

theorem bindAndAdopt_settings {context bound : Context} {tenant : TenantId} {phase : Phase}
    {policy : Policy} (done : context.bindAndAdopt tenant phase policy = .ok bound) :
    bound.settings = context.settings ∨ ∃ library profile, bound.tenant = some library ∧
      policy.profile? library = some profile ∧ bound.settings = profile.session := by
  unfold bindAndAdopt at done
  cases first : context.bind tenant with
  | error cause =>
    rw [first] at done
    cases done
  | ok placed =>
    rw [first] at done
    obtain ⟨rfl, -⟩ := bind_eq_ok first
    cases known : policy.profile? tenant with
    | none =>
      simp only [known] at done
      cases done
      exact .inl rfl
    | some profile =>
      simp only [known] at done
      cases done
      exact .inr ⟨tenant, profile, rfl, known, rfl⟩

end Context

/-- A failure that does not blame the session for what it has not got. -/
def Failure.Apt (failure : Failure) : Prop :=
  failure.cause ≠ .notLoggedIn ∧ ∀ name, failure.cause ≠ .unresolved name

/-- What holds at the end of a stretch that began with `context`. -/
structure Stretch.Sound (message : Message) (context : Context) (stretch : Stretch) : Prop where
  grounded : stretch.context.Grounded
  waiting : ∀ wait, stretch.stage = .waiting wait → stretch.context.Awaits message wait
  unchanged : message.isBusiness = true → stretch.context = context
  entered : stretch.context.isAuthenticated = true → context.isAuthenticated = true ∨
    message.command = some .login ∧ ∃ model, stretch.stage = .finished (.ok model)
  apt : message.isBusiness = true →
    ∀ failure, stretch.stage = .finished (.error failure) → failure.Apt
  sent : ∀ request, .execute request ∈ stretch.effects →
    message.command = some request.command ∧
      ∃ user, stretch.stage = .waiting (.platform ⟨request.tenant, user⟩)

namespace Dispatch

/-- The ways in which a request that waits can go on. -/
inductive Resumption (setup : Setup) (caller : Nat) (message : Message) (shared : Shared)
    (context : Context) : Wait → Reply → Stretch → Prop where
  | admitted {wish : TokenWish} {share : Logins.Share} :
      shared.logins.share? caller = some share → shared.logins.mayEnter caller = true →
      Resumption setup caller message shared context (.token wish) .admitted
        (enter setup message wish share shared context)
  | login {wish : TokenWish} {share : Logins.Share} (result : Except PlatformError Token) :
      shared.logins.share? caller = some share → share.deadline.isSome = true →
      Resumption setup caller message shared context (.token wish) (.login result)
        (loginEnded message wish share result shared context)
  | platform (account : Account) (result : Except PlatformError Json) :
      Resumption setup caller message shared context (.platform account) (.platform result)
        (platformAnswered setup message account result shared context)
  | handler (reply : HandlerReply) :
      Resumption setup caller message shared context .handler (.handler reply)
        (handlerAnswered reply shared context)

variable {setup : Setup} {caller : Nat} {message : Message} {wish : TokenWish} {shared : Shared}
  {context : Context}

theorem resumption_of_resume? {wait : Wait} {reply : Reply} {stretch : Stretch}
    (resumes : resume? setup caller message wait shared context reply = some stretch) :
    Resumption setup caller message shared context wait reply stretch := by
  unfold resume? at resumes
  split at resumes
  · obtain ⟨share, found, goes⟩ := Option.bind_eq_some_iff.mp resumes
    obtain ⟨turn, ⟨⟩⟩ := Option.ite_none_right_eq_some.mp goes
    exact .admitted found turn
  · obtain ⟨share, found, goes⟩ := Option.bind_eq_some_iff.mp resumes
    obtain ⟨begun, ⟨⟩⟩ := Option.ite_none_right_eq_some.mp goes
    exact .login _ found begun
  · cases resumes
    exact .platform _ _
  · cases resumes
    exact .handler _
  · cases resumes

section

variable {Holds : Stretch → Prop}
  (served : ∀ token logins, Holds (.after [.count .tokenHit]
    (granted message wish (.ok token) { shared with logins } context)))
  (begins : ∀ logins, Holds {
    shared := { shared with logins }
    context
    stage := .waiting (.token wish)
    effects := [.count .tokenMiss, .login wish.account wish.password] })

include served begins

/-- A request at the gate gets a token from the store, or begins its login. -/
theorem enter_holds (share : Logins.Share) :
    Holds (enter setup message wish share shared context) := by
  unfold enter
  split
  · exact served _ _
  · exact begins _

/-- A request that needs a token gets it from the store, begins its login, or waits for its turn. -/
theorem wantToken_holds (waits : ∀ logins, Holds {
      shared := { shared with logins }
      context
      stage := .waiting (.token wish) }) :
    Holds (wantToken setup caller message wish shared context) := by
  unfold wantToken
  split
  · exact served _ _
  · dsimp only
    split
    · exact waits _
    · split
      · apply enter_holds
        · exact served
        · exact begins
      · exact waits _

end

theorem sound_after {stretch : Stretch} {effects : List Effect}
    (sound : stretch.Sound message context)
    (silent : ∀ request, .execute request ∉ effects) :
    (Stretch.after effects stretch).Sound message context where
  grounded := sound.grounded
  waiting := sound.waiting
  unchanged := sound.unchanged
  entered := sound.entered
  apt := sound.apt
  sent := by
    intro request member
    rcases List.mem_append.mp member with early | late
    · exact (silent request early).elim
    · exact sound.sent request late

/-- A stretch that ends where it began. -/
theorem rest_sound (grounded : context.Grounded) {result : Except Failure Json}
    (apt : message.isBusiness = true → ∀ failure, result = .error failure → failure.Apt) :
    (rest shared context result).Sound message context where
  grounded := grounded
  waiting := by
    intro wait waits
    cases waits
  unchanged _ := rfl
  entered := .inl
  apt := by
    intro business failure failed
    cases failed
    exact apt business failure rfl
  sent := by
    intro request member
    cases member

theorem fail_sound (grounded : context.Grounded) {cause : Cause}
    (apt : message.isBusiness = true → Failure.Apt { cause }) :
    (fail shared context cause).Sound message context := by
  apply rest_sound grounded
  intro business failure failed
  cases failed
  exact apt business

/-- A login that succeeds. -/
theorem entered_sound {tenant : TenantId} (bound : context.tenant = some tenant)
    (login : message.command = some .login) (credentials : Credentials) (model : Json) :
    Stretch.Sound message context
      { rest shared (context.authenticate credentials) (.ok model) with
        effects := [.count (.login true)] } := by
  have control {holds : Prop} (business : message.isBusiness = true) : holds :=
    (Message.not_business_of_login login business).elim
  refine ⟨?_, ?_, control, ?_, control, ?_⟩
  · intro _
    exact ⟨Option.isSome_iff_exists.mpr ⟨tenant, bound⟩, rfl⟩
  · intro wait waits
    cases waits
  · intro _
    exact .inr ⟨login, model, rfl⟩
  · intro request member
    simp at member

/-- A request that goes to the platform, which it waits for from now on. -/
theorem forwarded_sound (grounded : context.Grounded) {account : Account}
    (awaits : context.Awaits message (.platform account)) {request : PlatformRequest}
    (named : message.command = some request.command) (own : request.tenant = account.tenant) :
    Stretch.Sound message context
      { shared, context, stage := .waiting (.platform account),
        effects := [.execute request] } := by
  refine ⟨grounded, ?_, fun _ => rfl, .inl, ?_, ?_⟩
  · intro wait waits
    cases waits
    exact awaits
  · intro _ failure failed
    cases failed
  · intro other member
    simp only [List.mem_singleton, Effect.execute.injEq] at member
    subst member
    exact ⟨named, account.user, by rw [own]⟩

theorem granted_sound (grounded : context.Grounded)
    (awaits : context.Awaits message (.token wish)) (result : Except PlatformError Token) :
    (granted message wish result shared context).Sound message context := by
  obtain ⟨tenant, purpose⟩ := awaits
  unfold granted
  cases aim : wish.purpose with
  | login =>
    simp only [aim] at purpose
    obtain ⟨login, -⟩ := purpose
    cases result with
    | ok token => exact entered_sound tenant login _ _
    | error error =>
      have still : (rest shared context
          (.error (refusal (.loginRefused wish.account.user error)))).Sound message context := by
        apply rest_sound grounded
        intro business
        exact (Message.not_business_of_login login business).elim
      exact {
        still with
        sent := by
          intro request member
          simp at member }
  | forward =>
    simp only [aim] at purpose
    obtain ⟨business, authenticated, credentials⟩ := purpose
    cases result with
    | error error =>
      apply fail_sound grounded
      intro _
      exact ⟨by simp, by simp⟩
    | ok token =>
      obtain ⟨command, named, -⟩ := Message.command_of_business business
      rw [named]
      exact forwarded_sound grounded ⟨business, authenticated, tenant, _, credentials⟩ named rfl

/-- Waiting for a token changes nothing in the context. -/
theorem waiting_sound (grounded : context.Grounded)
    (awaits : context.Awaits message (.token wish)) {effects : List Effect}
    (silent : ∀ request, .execute request ∉ effects) (shared : Shared) :
    Stretch.Sound message context
      { shared, context, stage := .waiting (.token wish), effects } where
  grounded := grounded
  waiting := by
    intro wait waits
    cases waits
    exact awaits
  unchanged _ := rfl
  entered := .inl
  apt := by
    intro _ failure failed
    cases failed
  sent := by
    intro request member
    exact (silent request member).elim

theorem enter_sound (grounded : context.Grounded)
    (awaits : context.Awaits message (.token wish)) (share : Logins.Share) :
    (enter setup message wish share shared context).Sound message context := by
  apply enter_holds
  · exact fun _ _ => sound_after (granted_sound grounded awaits _) (by simp)
  · exact fun _ => waiting_sound grounded awaits (by simp) _

theorem wantToken_sound (grounded : context.Grounded)
    (awaits : context.Awaits message (.token wish)) :
    (wantToken setup caller message wish shared context).Sound message context := by
  apply wantToken_holds
  · exact fun _ _ => sound_after (granted_sound grounded awaits _) (by simp)
  · exact fun _ => waiting_sound grounded awaits (by simp) _
  · exact fun _ => waiting_sound grounded awaits (by simp) _

theorem loginEnded_sound (grounded : context.Grounded)
    (awaits : context.Awaits message (.token wish)) (share : Logins.Share)
    (result : Except PlatformError Token) :
    (loginEnded message wish share result shared context).Sound message context := by
  unfold loginEnded
  dsimp only
  apply sound_after (granted_sound grounded awaits _)
  intro request
  split <;> simp

theorem platformAnswered_sound (grounded : context.Grounded) {account : Account}
    (result : Except PlatformError Json) :
    (platformAnswered setup message account result shared context).Sound message context := by
  unfold platformAnswered
  split
  · split
    · exact fail_sound grounded fun _ => ⟨by simp, by simp⟩
    · apply rest_sound grounded
      intro _ failure failed
      cases failed
  · exact fail_sound grounded fun _ => ⟨by simp, by simp⟩
  · exact fail_sound grounded fun _ => ⟨by simp, by simp⟩

/-- A login leaves alone who is logged in until it succeeds, and asks for a token of the library
that the session is bound to. -/
theorem resolveLogin_eq_ok {policy : Policy} {user name : String} {bound : Context}
    (done : resolveLogin setup policy user message context = .ok (bound, name)) :
    bound.standing = context.standing ∧ bound.credentials = context.credentials ∧
      (context.tenant.isSome = true → bound.tenant = context.tenant) := by
  unfold resolveLogin at done
  split at done
  · cases done
    exact ⟨rfl, rfl, fun _ => rfl⟩
  · dsimp only at done
    split at done
    · cases done
    · next resolved _ =>
      cases placed : context.bindAndAdopt resolved.tenant .login policy with
      | error cause =>
        rw [placed] at done
        cases done
      | ok now =>
        rw [placed] at done
        cases done
        obtain ⟨tenant, standing, credentials, -, free⟩ := Context.bindAndAdopt_eq_ok placed
        refine ⟨standing, credentials, ?_⟩
        intro taken
        rcases free with none | same
        · simp [none] at taken
        · rw [tenant, same]

/-- A login is refused for lack of a library, or for the sake of another. -/
theorem resolveLogin_eq_error {policy : Policy} {user : String} {cause : Cause}
    (fails : resolveLogin setup policy user message context = .error cause) :
    cause = .unresolved context.session ∨
      ∃ bound refused, cause = .boundElsewhere context.session bound refused := by
  unfold resolveLogin at fails
  split at fails
  · cases fails
  · dsimp only at fails
    split at fails
    · cases fails
      exact .inl rfl
    · next resolved _ =>
      cases placed : context.bindAndAdopt resolved.tenant .login policy with
      | error other =>
        rw [placed] at fails
        cases fails
        obtain ⟨bound, same⟩ := Context.bindAndAdopt_eq_error placed
        exact .inr ⟨bound, _, same⟩
      | ok now =>
        rw [placed] at fails
        cases fails

theorem resolveLogin_settings {policy : Policy} {user name : String} {bound : Context}
    (done : resolveLogin setup policy user message context = .ok (bound, name)) :
    bound.settings = context.settings ∨ ∃ tenant profile, bound.tenant = some tenant ∧
      policy.profile? tenant = some profile ∧ bound.settings = profile.session := by
  unfold resolveLogin at done
  split at done
  · cases done
    exact .inl rfl
  · dsimp only at done
    split at done
    · cases done
    · next resolved _ =>
      cases placed : context.bindAndAdopt resolved.tenant .login policy with
      | error cause =>
        rw [placed] at done
        cases done
      | ok now =>
        rw [placed] at done
        cases done
        exact Context.bindAndAdopt_settings placed

theorem login_sound (grounded : context.Grounded) (logsIn : message.command = some .login) :
    (login setup caller message shared context).Sound message context := by
  have control {holds : Prop} (business : message.isBusiness = true) : holds :=
    (Message.not_business_of_login logsIn business).elim
  have still (cause : Cause) :
      (rest shared context (.error (refusal cause))).Sound message context :=
    rest_sound grounded control
  unfold login
  dsimp only
  split
  · exact still _
  · split
    · exact still _
    · next bound name done =>
      obtain ⟨standing, credentials, kept⟩ := resolveLogin_eq_ok done
      have same : bound.isAuthenticated = context.isAuthenticated := by
        simp [Context.isAuthenticated, standing]
      have grounded' : bound.Grounded := by
        intro authenticated
        rw [same] at authenticated
        obtain ⟨taken, named⟩ := grounded authenticated
        rw [kept taken, credentials]
        exact ⟨taken, named⟩
      -- Everything said about the bound context carries over to the one at the beginning.
      have back {stretch : Stretch} (sound : stretch.Sound message bound) :
          stretch.Sound message context := {
        sound with
        unchanged := control
        entered := by
          intro authenticated
          rw [← same]
          exact sound.entered authenticated }
      split
      · exact back (rest_sound grounded' control)
      · next tenant taken =>
        refine back (wantToken_sound grounded' ?_)
        exact ⟨taken, logsIn, rfl⟩

theorem status_sound (grounded : context.Grounded) (control : message.isBusiness = false) :
    (status setup shared context).Sound message context := by
  unfold status
  split
  · apply fail_sound grounded
    intro business
    rw [control] at business
    cases business
  · apply rest_sound grounded
    intro _ failure failed
    cases failed

theorem forward_sound (grounded : context.Grounded) (business : message.isBusiness = true)
    (authenticated : context.isAuthenticated = true) :
    (forward setup caller message shared context).Sound message context := by
  obtain ⟨taken, named⟩ := grounded authenticated
  obtain ⟨tenant, taken⟩ := Option.isSome_iff_exists.mp taken
  obtain ⟨credentials, named⟩ := Option.isSome_iff_exists.mp named
  unfold forward
  -- Both ways to fail are closed: the session has a library and credentials.
  simp only [taken, named]
  apply wantToken_sound grounded
  exact ⟨taken, business, authenticated, named⟩

/-- The gateway's own table sends every request that the policy can switch off to the platform. -/
theorem start_eq_forward (stock : setup.handlers = Handler.stock)
    (business : message.isBusiness = true) :
    start setup caller message shared context =
      forward setup caller message shared context := by
  obtain ⟨command, named, control⟩ := Message.command_of_business business
  unfold start
  simp only [named, Option.bind_some, stock, Handler.lookup_stock]
  cases command with
  | login | scStatus | requestAcsResend => cases control
  | _ => rfl

theorem start_sound (stock : setup.handlers = Handler.stock) (grounded : context.Grounded)
    (gate : message.isBusiness = true → context.isAuthenticated = true) :
    (start setup caller message shared context).Sound message context := by
  cases business : message.isBusiness with
  | true =>
    rw [start_eq_forward stock business]
    exact forward_sound grounded business (gate business)
  | false =>
    have refused : (fail shared context (.unrecognized message.code)).Sound message context :=
      fail_sound grounded fun _ => ⟨by simp, by simp⟩
    unfold start
    cases named : message.command with
    | none => exact refused
    | some command =>
      rw [Message.isBusiness_of_command named] at business
      simp only [Option.bind_some, stock, Handler.lookup_stock]
      cases command with
      | login => exact login_sound grounded named
      | scStatus => exact status_sound grounded (by rw [Message.isBusiness_of_command named]; rfl)
      | requestAcsResend => exact refused
      | _ => cases business

theorem resume?_sound {wait : Wait} {reply : Reply} {stretch : Stretch}
    (grounded : context.Grounded) (awaits : context.Awaits message wait)
    (resumes : resume? setup caller message wait shared context reply = some stretch) :
    stretch.Sound message context := by
  cases resumption_of_resume? resumes with
  | admitted => exact enter_sound grounded awaits _
  | login result => exact loginEnded_sound grounded awaits _ result
  | platform account result => exact platformAnswered_sound grounded result
  | handler => exact awaits.elim

end Dispatch

/-! A session bound to its library at the connection keeps its wire settings, and only answers go to
the terminal. -/

/-- A stretch that leaves the wire alone: binding and settings are as before, and nothing is
written. -/
structure Stretch.OffWire (context : Context) (stretch : Stretch) : Prop where
  tenant : stretch.context.tenant = context.tenant
  resolvedAt : stretch.context.resolvedAt = context.resolvedAt
  settings : stretch.context.settings = context.settings
  unwritten : stretch.effects.filterMap Effect.written? = []

namespace Dispatch

variable {setup : Setup} {caller : Nat} {message : Message} {wish : TokenWish} {shared : Shared}
  {context : Context}

theorem still_offWire {stage : Stage} {effects : List Effect}
    (unwritten : effects.filterMap Effect.written? = []) :
    Stretch.OffWire context { shared, context, stage, effects } :=
  ⟨rfl, rfl, rfl, unwritten⟩

theorem after_offWire {stretch : Stretch} {effects : List Effect}
    (offWire : stretch.OffWire context) (unwritten : effects.filterMap Effect.written? = []) :
    (Stretch.after effects stretch).OffWire context := by
  refine ⟨offWire.tenant, offWire.resolvedAt, offWire.settings, ?_⟩
  change (effects ++ stretch.effects).filterMap Effect.written? = []
  rw [List.filterMap_append, unwritten, offWire.unwritten]
  rfl

theorem granted_offWire (result : Except PlatformError Token) :
    (granted message wish result shared context).OffWire context := by
  unfold granted
  split
  · exact ⟨rfl, rfl, rfl, rfl⟩
  · exact still_offWire rfl
  · exact still_offWire rfl
  · split
    · exact still_offWire rfl
    · exact still_offWire rfl

theorem enter_offWire (share : Logins.Share) :
    (enter setup message wish share shared context).OffWire context := by
  apply enter_holds
  · exact fun _ _ => after_offWire (granted_offWire _) rfl
  · exact fun _ => still_offWire rfl

theorem wantToken_offWire :
    (wantToken setup caller message wish shared context).OffWire context := by
  apply wantToken_holds
  · exact fun _ _ => after_offWire (granted_offWire _) rfl
  · exact fun _ => still_offWire rfl
  · exact fun _ => still_offWire rfl

theorem loginEnded_offWire (share : Logins.Share) (result : Except PlatformError Token) :
    (loginEnded message wish share result shared context).OffWire context := by
  have counted (evicted : Option Account) :
      (if evicted.isSome then [Effect.count .tokenEvicted] else []).filterMap Effect.written? =
        [] := by
    cases evicted <;> rfl
  exact after_offWire (granted_offWire _) (counted _)

theorem platformAnswered_offWire (account : Account) (result : Except PlatformError Json) :
    (platformAnswered setup message account result shared context).OffWire context := by
  unfold platformAnswered
  split
  · split
    · exact still_offWire rfl
    · exact still_offWire rfl
  · exact still_offWire rfl
  · exact still_offWire rfl

theorem handlerAnswered_offWire (reply : HandlerReply) :
    (handlerAnswered reply shared context).OffWire context := by
  unfold handlerAnswered
  cases reply.credentials with
  | none => exact still_offWire rfl
  | some credentials => exact ⟨rfl, rfl, rfl, rfl⟩

theorem login_offWire (bound : context.tenant.isSome = true)
    (early : context.resolvedAt ≠ some .login) :
    (login setup caller message shared context).OffWire context := by
  unfold login
  dsimp only
  split
  · exact still_offWire rfl
  · have stays : resolveLogin setup shared.policy (Text.trim ((message.field? "CN").getD ""))
        message context = .ok (context, Text.trim ((message.field? "CN").getD "")) := by
      simp [resolveLogin, bound, early]
    rw [stays]
    dsimp only
    split
    · exact still_offWire rfl
    · exact wantToken_offWire

theorem start_offWire (bound : context.tenant.isSome = true)
    (early : context.resolvedAt ≠ some .login) :
    (start setup caller message shared context).OffWire context := by
  unfold start
  split
  · exact still_offWire rfl
  · exact login_offWire bound early
  · unfold status
    split <;> exact still_offWire rfl
  · unfold forward
    split
    · exact still_offWire rfl
    · exact still_offWire rfl
    · exact wantToken_offWire
  · exact still_offWire rfl

theorem resume?_offWire {wait : Wait} {reply : Reply} {stretch : Stretch}
    (resumes : resume? setup caller message wait shared context reply = some stretch) :
    stretch.OffWire context := by
  cases resumption_of_resume? resumes with
  | admitted => exact enter_offWire _
  | login result => exact loginEnded_offWire _ result
  | platform account result => exact platformAnswered_offWire account result
  | handler reply => exact handlerAnswered_offWire reply

/-- The wire settings after the beginning of a request are those before it, or those in the profile
of the library that the session is bound to now. -/
theorem start_settings :
    let stretch := start setup caller message shared context
    stretch.context.settings = context.settings ∨
      ∃ tenant profile, stretch.context.tenant = some tenant ∧
        shared.policy.profile? tenant = some profile ∧
        stretch.context.settings = profile.session := by
  -- Only a login that asks the resolvers can take over a profile; waiting for a token changes
  -- nothing about the wire.
  have token {wish : TokenWish} {start : Context} :
      (wantToken setup caller message wish shared start).context.settings = start.settings ∧
        (wantToken setup caller message wish shared start).context.tenant = start.tenant :=
    ⟨wantToken_offWire.settings, wantToken_offWire.tenant⟩
  intro stretch
  unfold stretch start
  split
  · exact .inl rfl
  · unfold login
    dsimp only
    split
    · exact .inl rfl
    · split
      · exact .inl rfl
      · next bound name done =>
        have placed := resolveLogin_settings done
        split
        · exact placed
        · rw [token.1, token.2]
          exact placed
  · unfold status
    split <;> exact .inl rfl
  · unfold forward
    split
    · exact .inl rfl
    · exact .inl rfl
    · exact .inl token.1
  · exact .inl rfl

/-- No handler writes to the terminal by itself, wherever the session is bound. -/
theorem start_unwritten :
    (start setup caller message shared context).effects.filterMap Effect.written? = [] := by
  unfold start
  split
  · rfl
  · unfold login
    dsimp only
    split
    · rfl
    · split
      · rfl
      · split
        · rfl
        · exact wantToken_offWire.unwritten
  · unfold status
    split <;> rfl
  · unfold forward
    split
    · rfl
    · rfl
    · exact wantToken_offWire.unwritten
  · rfl

end Dispatch

end SelfCheck
