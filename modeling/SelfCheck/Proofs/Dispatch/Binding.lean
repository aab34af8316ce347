import SelfCheck.Proofs.Dispatch

/-! What handling a request does to the binding of its session.

Only a login binds, and it binds before it asks for a token. So even a login that comes to nothing
may leave the session bound; but a library that the session has got stays, nobody is logged in by a
login that fails, and every call is made in the name of the library.
-/

set_option autoImplicit false

namespace SelfCheck

/-- The library in whose name somebody is called. -/
def Effect.tenant? : Effect → Option TenantId
  | login account _ => some account.tenant
  | execute request => some request.tenant
  | _ => none

namespace Context

/-- A session has a library just when it has found it in some phase. -/
def Placed (context : Context) : Prop := context.tenant.isSome = context.resolvedAt.isSome

/-- A library stays, and so does the phase in which it was found. -/
structure Stays (before after : Context) : Prop where
  placed : before.Placed → after.Placed
  tenant : before.tenant.isSome = true → after.tenant = before.tenant
  phase : before.Placed → before.tenant.isSome = true → after.resolvedAt = before.resolvedAt

theorem Stays.of_eq {before after : Context} (tenant : after.tenant = before.tenant)
    (phase : after.resolvedAt = before.resolvedAt) : before.Stays after where
  placed := by
    intro placed
    rwa [Placed, tenant, phase]
  tenant _ := tenant
  phase _ _ := phase

theorem Stays.refl (context : Context) : context.Stays context := .of_eq rfl rfl

theorem Stays.trans {first second third : Context} (one : first.Stays second)
    (two : second.Stays third) : first.Stays third where
  placed placed := two.placed (one.placed placed)
  tenant bound := by
    have same := one.tenant bound
    exact (two.tenant (same ▸ bound)).trans same
  phase placed bound := by
    have same := one.tenant bound
    exact (two.phase (one.placed placed) (same ▸ bound)).trans (one.phase placed bound)

theorem bindAndAdopt_stays {context bound : Context} {tenant : TenantId} {phase : Phase}
    {policy : Policy} (done : context.bindAndAdopt tenant phase policy = .ok bound) :
    context.Stays bound := by
  obtain ⟨now, -, -, found, free⟩ := bindAndAdopt_eq_ok done
  refine ⟨?_, ?_, ?_⟩
  · intro _
    rw [Placed, now, found]
    cases context.resolvedAt <;> rfl
  · intro taken
    rcases free with none | same
    · simp [none] at taken
    · rw [now, same]
  · intro placed taken
    rw [placed] at taken
    obtain ⟨early, known⟩ := Option.isSome_iff_exists.mp taken
    rw [found, known]
    rfl

end Context

namespace Stretch

/-- A stretch in which a login succeeds. -/
def Admits (message : Message) (stretch : Stretch) : Prop :=
  message.command = some .login ∧ ∃ model, stretch.stage = .finished (.ok model)

/-- What a stretch may do to the context it began with. -/
structure Loyal (message : Message) (context : Context) (stretch : Stretch) : Prop where
  stays : context.Stays stretch.context
  calls : ∀ effect ∈ stretch.effects, ∀ tenant, effect.tenant? = some tenant →
    stretch.context.tenant = some tenant
  outside : ¬stretch.Admits message →
    stretch.context.standing = context.standing ∧
      stretch.context.credentials = context.credentials

end Stretch

namespace Dispatch

variable {setup : Setup} {caller : Nat} {message : Message} {wish : TokenWish} {shared : Shared}
  {context : Context}

/-- A stretch that leaves the context as it was, and calls only in its name. -/
theorem still_loyal {stretch : Stretch} (same : stretch.context = context)
    (names : ∀ effect ∈ stretch.effects, ∀ tenant, effect.tenant? = some tenant →
      context.tenant = some tenant) : stretch.Loyal message context where
  stays := same ▸ .refl _
  calls := same ▸ names
  outside _ := same ▸ ⟨rfl, rfl⟩

theorem rest_loyal (result : Except Failure Json) :
    (rest shared context result).Loyal message context :=
  still_loyal rfl (by simp [rest])

theorem after_loyal {stretch : Stretch} {effects : List Effect}
    (loyal : stretch.Loyal message context)
    (silent : ∀ effect ∈ effects, effect.tenant? = none) :
    (Stretch.after effects stretch).Loyal message context where
  stays := loyal.stays
  calls := by
    intro effect member tenant named
    rcases List.mem_append.mp member with early | late
    · rw [silent effect early] at named
      cases named
    · exact loyal.calls effect late tenant named
  outside := loyal.outside

theorem granted_loyal (bound : context.tenant = some wish.account.tenant)
    (aim : wish.purpose = .login → message.command = some .login)
    (result : Except PlatformError Token) :
    (granted message wish result shared context).Loyal message context := by
  unfold granted
  split
  · next token purpose =>
    refine ⟨.of_eq rfl rfl, by simp [Effect.tenant?], ?_⟩
    intro outside
    exact (outside ⟨aim purpose, _, rfl⟩).elim
  · exact still_loyal rfl (by simp [Effect.tenant?])
  · exact rest_loyal _
  · split
    · exact rest_loyal _
    · exact still_loyal rfl (by simp [Effect.tenant?, bound])

theorem enter_loyal (bound : context.tenant = some wish.account.tenant)
    (aim : wish.purpose = .login → message.command = some .login) (share : Logins.Share) :
    (enter setup message wish share shared context).Loyal message context := by
  apply enter_holds
  · exact fun _ _ => after_loyal (granted_loyal bound aim _) (by simp [Effect.tenant?])
  · exact fun _ => still_loyal rfl (by simp [Effect.tenant?, bound])

theorem wantToken_loyal (bound : context.tenant = some wish.account.tenant)
    (aim : wish.purpose = .login → message.command = some .login) :
    (wantToken setup caller message wish shared context).Loyal message context := by
  apply wantToken_holds
  · exact fun _ _ => after_loyal (granted_loyal bound aim _) (by simp [Effect.tenant?])
  · exact fun _ => still_loyal rfl (by simp [Effect.tenant?, bound])
  · exact fun _ => still_loyal rfl (by simp)

theorem loginEnded_loyal (bound : context.tenant = some wish.account.tenant)
    (aim : wish.purpose = .login → message.command = some .login) (share : Logins.Share)
    (result : Except PlatformError Token) :
    (loginEnded message wish share result shared context).Loyal message context := by
  unfold loginEnded
  dsimp only
  apply after_loyal (granted_loyal bound aim _)
  split <;> simp [Effect.tenant?]

theorem platformAnswered_loyal (account : Account) (result : Except PlatformError Json) :
    (platformAnswered setup message account result shared context).Loyal message context := by
  unfold platformAnswered
  split
  · split
    · exact rest_loyal _
    · exact rest_loyal _
  · exact still_loyal rfl (by simp [fail, rest])
  · exact rest_loyal _

/-- What the resolvers learn of a login. -/
def loginFacts (context : Context) (message : Message) : Facts :=
  { context.facts with
    loginUser := some (Text.trim ((message.field? "CN").getD ""))
    location := message.field? "CP" }

theorem resolveLogin_stays {policy : Policy} {user name : String} {bound : Context}
    (done : resolveLogin setup policy user message context = .ok (bound, name)) :
    context.Stays bound := by
  unfold resolveLogin at done
  split at done
  · cases done
    exact .refl _
  · dsimp only at done
    split at done
    · cases done
    · next resolved _ =>
      cases placed : context.bindAndAdopt resolved.tenant .login policy with
      | error cause =>
        rw [placed] at done
        cases done
      | ok now =>
        rw [placed] at done
        cases done
        exact Context.bindAndAdopt_stays placed

theorem login_loyal (logsIn : message.command = some .login) :
    (login setup caller message shared context).Loyal message context := by
  unfold login
  dsimp only
  split
  · exact rest_loyal _
  · split
    · exact rest_loyal _
    · next bound name done =>
      obtain ⟨standing, credentials, -⟩ := resolveLogin_eq_ok done
      -- What is loyal to the bound context is loyal to the one at the beginning.
      have back {stretch : Stretch} (loyal : stretch.Loyal message bound) :
          stretch.Loyal message context := {
        loyal with
        stays := (resolveLogin_stays done).trans loyal.stays
        outside := by
          intro outside
          rw [← standing, ← credentials]
          exact loyal.outside outside }
      split
      · exact back (rest_loyal _)
      · next tenant taken => exact back (wantToken_loyal taken fun _ => logsIn)

theorem status_loyal : (status setup shared context).Loyal message context := by
  unfold status
  split
  · exact rest_loyal _
  · exact rest_loyal _

theorem forward_loyal : (forward setup caller message shared context).Loyal message context := by
  unfold forward
  split
  · exact rest_loyal _
  · exact rest_loyal _
  · next tenant credentials taken _ =>
    exact wantToken_loyal taken (by simp)

theorem start_loyal (stock : setup.handlers = Handler.stock) :
    (start setup caller message shared context).Loyal message context := by
  unfold start
  cases named : message.command with
  | none => exact rest_loyal _
  | some command =>
    simp only [Option.bind_some, stock, Handler.lookup_stock]
    cases command with
    | login => exact login_loyal named
    | scStatus => exact status_loyal
    | requestAcsResend => exact rest_loyal _
    | _ => exact forward_loyal

theorem resume?_loyal {wait : Wait} {reply : Reply} {stretch : Stretch}
    (awaits : context.Awaits message wait)
    (resumes : resume? setup caller message wait shared context reply = some stretch) :
    stretch.Loyal message context := by
  have goal {wish : TokenWish} (awaits : context.Awaits message (.token wish)) :
      wish.purpose = .login → message.command = some .login := by
    intro purpose
    have aims := awaits.2
    simp only [purpose] at aims
    exact aims.1
  cases resumption_of_resume? resumes with
  | admitted => exact enter_loyal awaits.1 (goal awaits) _
  | login result => exact loginEnded_loyal awaits.1 (goal awaits) _ result
  | platform account result => exact platformAnswered_loyal account result
  | handler => exact awaits.elim

/-! Logins of a session that has its library already. -/

/-- A session bound at the connection does not ask the resolvers, whatever they are. -/
theorem start_eq_of_early (bound : context.tenant.isSome = true)
    (early : context.resolvedAt ≠ some .login) (others : Resolvers) :
    start { setup with resolvers := others } caller message shared context =
      start setup caller message shared context := by
  have unasked (user : String) (resolvers : Resolvers) :
      resolveLogin { setup with resolvers } shared.policy user message context =
        .ok (context, user) := by
    simp [resolveLogin, bound, early]
  unfold start
  dsimp only
  split
  · rfl
  · unfold login
    dsimp only
    rw [unasked, unasked _ setup.resolvers]
    rfl
  · rfl
  · rfl
  · rfl

/-- A login that the resolvers send to another library than the session's comes to nothing. -/
theorem login_strayed {tenant : TenantId} {resolved : Resolved}
    (bound : context.tenant = some tenant)
    (late : context.resolvedAt = some .login)
    (resolves : setup.resolvers.resolve? .login (loginFacts context message) = some resolved)
    (elsewhere : resolved.tenant ≠ tenant) :
    ∃ cause, login setup caller message shared context =
      rest shared context (.error (refusal cause)) := by
  unfold login
  dsimp only
  split
  · exact ⟨_, rfl⟩
  · have refuses : resolveLogin setup shared.policy
        (Text.trim ((message.field? "CN").getD "")) message context =
          .error (.boundElsewhere context.session tenant resolved.tenant) := by
      unfold loginFacts at resolves
      unfold resolveLogin
      simp only [bound, late, resolves, Context.bindAndAdopt, Context.bind, elsewhere.symm]
      rfl
    rw [refuses]
    exact ⟨_, rfl⟩

end Dispatch

end SelfCheck
