import SelfCheck.Proofs.Dispatch
import SelfCheck.Proofs.Token

/-! Where the tokens come from that a request is handled with.

A token is either found fresh in the store under the account that it is wanted for, or given by a
login for that account which the request has begun itself.
-/

set_option autoImplicit false

namespace SelfCheck

/-- A token that can be had for an account: it is in the store and fresh, or has just been given. -/
def Shared.Grants (shared : Shared) (given : Option (Account × Token)) (account : Account)
    (token : Token) : Prop :=
  (shared.logins.cache.token? account = some token ∧ token.isStale shared.now = false) ∨
    given = some (account, token)

namespace Stretch

/-- A stretch that logs its session in, with the password of the request. -/
def Enters (shared : Shared) (given : Option (Account × Token)) (message : Message)
    (stretch : Stretch) : Prop :=
  ∃ tenant user token, stretch.context.isAuthenticated = true ∧
    stretch.context.tenant = some tenant ∧
    stretch.context.credentials = some ⟨user, (message.field? "CO").getD ""⟩ ∧
    shared.Grants given ⟨tenant, user⟩ token

/-- The session of a stretch acts for an account. -/
def ActsFor (stretch : Stretch) (account : Account) : Prop :=
  stretch.context.tenant = some account.tenant ∧
    ∃ own, stretch.context.credentials = some ⟨account.user, own⟩

/-- What a stretch does with tokens, and with the shares in logins. -/
structure Traced (caller : Nat) (shared : Shared) (given : Option (Account × Token))
    (message : Message) (context : Context) (stretch : Stretch) : Prop where
  follows : shared.logins.Follows caller given stretch.shared.logins
  own : ∀ share ∈ stretch.shared.logins.shares, share.caller = caller →
    ∃ wish, stretch.stage = .waiting (.token wish) ∧ share.account = wish.account ∧
      (share.deadline.isSome = true → .login wish.account wish.password ∈ stretch.effects)
  sends : ∀ request, .execute request ∈ stretch.effects →
    ∃ user token, stretch.stage = .waiting (.platform ⟨request.tenant, user⟩) ∧
      token.text = request.token ∧ shared.Grants given ⟨request.tenant, user⟩ token
  enters : stretch.context.isAuthenticated = true →
    (context.isAuthenticated = true ∧ stretch.context.tenant = context.tenant ∧
      stretch.context.credentials = context.credentials) ∨ stretch.Enters shared given message
  logsIn : message.command = some .login → ∀ model, stretch.stage = .finished (.ok model) →
    model = Answer.flag true ∧ stretch.Enters shared given message
  hits : .count .tokenHit ∈ stretch.effects →
    ∃ account token, stretch.ActsFor account ∧
      shared.logins.cache.token? account = some token ∧ token.isStale shared.now = false

end Stretch

namespace Dispatch

variable {setup : Setup} {caller : Nat} {message : Message} {wish : TokenWish} {shared : Shared}
  {context : Context} {given : Option (Account × Token)}

theorem after_traced {stretch : Stretch} {effects : List Effect}
    (traced : stretch.Traced caller shared given message context)
    (silent : ∀ request, .execute request ∉ effects)
    (hits : .count .tokenHit ∈ effects → ∃ account token, stretch.ActsFor account ∧
      shared.logins.cache.token? account = some token ∧ token.isStale shared.now = false) :
    (Stretch.after effects stretch).Traced caller shared given message context where
  follows := traced.follows
  own := by
    intro share member mine
    obtain ⟨wish, waits, same, called⟩ := traced.own share member mine
    refine ⟨wish, waits, same, ?_⟩
    intro begun
    exact List.mem_append_right _ (called begun)
  sends := by
    intro request member
    rcases List.mem_append.mp member with early | late
    · exact (silent request early).elim
    · exact traced.sends request late
  enters := traced.enters
  logsIn := traced.logsIn
  hits := by
    intro member
    rcases List.mem_append.mp member with early | late
    · exact hits early
    · exact traced.hits late

/-- A stretch that has nothing to do with tokens. -/
theorem apart_traced {stretch : Stretch}
    (follows : shared.logins.Follows caller given stretch.shared.logins)
    (free : stretch.shared.logins.Without caller) (same : stretch.context = context)
    (silent : ∀ request, .execute request ∉ stretch.effects)
    (unserved : .count .tokenHit ∉ stretch.effects)
    (fails : message.command = some .login → ∀ model, stretch.stage ≠ .finished (.ok model)) :
    stretch.Traced caller shared given message context where
  follows := follows
  own := fun share member mine => (free share member mine).elim
  sends := fun request member => (silent request member).elim
  enters := by
    intro authenticated
    rw [same] at authenticated ⊢
    exact .inl ⟨authenticated, rfl, rfl⟩
  logsIn := fun login model finished => (fails login model finished).elim
  hits := fun member => (unserved member).elim

theorem fail_traced {logins : Logins} (follows : shared.logins.Follows caller given logins)
    (free : logins.Without caller) (cause : Cause) :
    (fail { shared with logins } context cause).Traced caller shared given message context :=
  apart_traced follows free rfl (by simp [fail, rest]) (by simp [fail, rest])
    (by simp [fail, rest])

/-- A login that succeeds with a token that can be had. -/
theorem entered_traced {logins : Logins} (follows : shared.logins.Follows caller given logins)
    (free : logins.Without caller) {account : Account} {password : String} {token : Token}
    (bound : context.tenant = some account.tenant)
    (own : password = (message.field? "CO").getD "") (grants : shared.Grants given account token) :
    Stretch.Traced caller shared given message context
      { rest { shared with logins } (context.authenticate ⟨account.user, password⟩)
          (.ok (Answer.flag true)) with effects := [.count (.login true)] } := by
  have enters : Stretch.Enters shared given message
      { rest { shared with logins } (context.authenticate ⟨account.user, password⟩)
          (.ok (Answer.flag true)) with effects := [.count (.login true)] } :=
    ⟨account.tenant, account.user, token, rfl, bound, by rw [← own]; rfl, grants⟩
  refine ⟨follows, ?_, ?_, fun _ => .inr enters, ?_, by simp⟩
  · intro share member mine
    exact (free share member mine).elim
  · intro request member
    simp at member
  · intro _ model finished
    cases finished
    exact ⟨rfl, enters⟩

/-- A request that goes to the platform with a token that can be had. -/
theorem forwarded_traced {logins : Logins} (follows : shared.logins.Follows caller given logins)
    (free : logins.Without caller) {account : Account} {token : Token}
    (grants : shared.Grants given account token) {request : PlatformRequest}
    (tenant : request.tenant = account.tenant) (text : request.token = token.text) :
    Stretch.Traced caller shared given message context
      { shared := { shared with logins }, context, stage := .waiting (.platform account)
        effects := [.execute request] } := by
  refine ⟨follows, ?_, ?_, fun authenticated => .inl ⟨authenticated, rfl, rfl⟩, ?_, by simp⟩
  · intro share member mine
    exact (free share member mine).elim
  · intro other member
    simp only [List.mem_singleton, Effect.execute.injEq] at member
    subst member
    rw [tenant]
    exact ⟨account.user, token, rfl, text.symm, grants⟩
  · intro _ model finished
    cases finished

/-- What is done with a token that can be had. -/
theorem granted_traced (awaits : context.Awaits message (.token wish)) {logins : Logins}
    (follows : shared.logins.Follows caller given logins) (free : logins.Without caller)
    {result : Except PlatformError Token}
    (grants : ∀ token, result = .ok token → shared.Grants given wish.account token) :
    (granted message wish result { shared with logins } context).Traced caller shared given
      message context := by
  obtain ⟨tenant, purpose⟩ := awaits
  unfold granted
  cases aim : wish.purpose with
  | login =>
    simp only [aim] at purpose
    cases result with
    | ok token => exact entered_traced follows free tenant purpose.2 (grants token rfl)
    | error error => exact apart_traced follows free rfl (by simp) (by simp) (by simp [rest])
  | forward =>
    cases result with
    | error error => exact fail_traced follows free _
    | ok token =>
      cases named : message.command with
      | none => exact fail_traced follows free _
      | some command => exact forwarded_traced follows free (grants token rfl) rfl rfl

/-- Whoever is granted a token acts for the account that it was wanted for. -/
theorem granted_actsFor (awaits : context.Awaits message (.token wish)) (token : Token)
    (shared : Shared) :
    (granted message wish (.ok token) shared context).ActsFor wish.account := by
  obtain ⟨tenant, purpose⟩ := awaits
  unfold granted
  cases aim : wish.purpose with
  | login => exact ⟨tenant, wish.password, rfl⟩
  | forward =>
    simp only [aim] at purpose
    have named := purpose.2.2
    dsimp only
    split
    · exact ⟨tenant, wish.password, named⟩
    · exact ⟨tenant, wish.password, named⟩

/-- Waiting for a token, in the account's line or for a login that has begun. -/
theorem waiting_traced {logins : Logins} (follows : shared.logins.Follows caller given logins)
    {effects : List Effect} (silent : ∀ request, .execute request ∉ effects)
    (unserved : .count .tokenHit ∉ effects)
    (own : ∀ share ∈ logins.shares, share.caller = caller → share.account = wish.account ∧
      (share.deadline.isSome = true → .login wish.account wish.password ∈ effects)) :
    Stretch.Traced caller shared given message context
      { shared := { shared with logins }, context, stage := .waiting (.token wish), effects } where
  follows := follows
  own := by
    intro share member mine
    exact ⟨wish, rfl, own share member mine⟩
  sends := fun request member => (silent request member).elim
  enters authenticated := .inl ⟨authenticated, rfl, rfl⟩
  logsIn := by
    intro _ model finished
    cases finished
  hits := fun member => (unserved member).elim

/-- Every share of a caller is for the account that its request wants a token of. -/
def Aligned (logins : Logins) (caller : Nat) (wish : TokenWish) : Prop :=
  ∀ share ∈ logins.shares, share.caller = caller → share.account = wish.account

theorem enter_traced (awaits : context.Awaits message (.token wish)) {logins : Logins}
    (follows : shared.logins.Follows caller none logins)
    (aligned : Aligned logins caller wish) {share : Logins.Share}
    (found : logins.share? caller = some share) :
    (enter setup message wish share { shared with logins } context).Traced caller shared none
      message context := by
  have mine : share.caller = caller := by
    simpa using List.find?_some found
  have same := aligned share (List.mem_of_find?_eq_some found) mine
  unfold enter
  split
  · next token left served =>
    obtain ⟨held, fresh, later, free⟩ := Logins.enter_served served
    rw [mine] at later free
    rw [same] at held
    -- Nothing new has come into the store since, so the token was there at the beginning.
    have cached : shared.logins.cache.token? wish.account = some token := by
      rcases follows.tokens _ _ held with old | new
      · exact old
      · cases new
    refine after_traced (granted_traced awaits (follows.trans later) free ?_) (by simp) ?_
    · rintro _ ⟨⟩
      exact .inl ⟨cached, fresh⟩
    · intro _
      exact ⟨wish.account, token, granted_actsFor awaits token _, cached, fresh⟩
  · next left unserved =>
    obtain ⟨later, shares⟩ := Logins.enter_unserved unserved
    rw [mine] at later
    apply waiting_traced (follows.trans later) (by simp) (by simp)
    intro other member own
    obtain ⟨before, old, caller', account⟩ := shares other member
    exact ⟨account.trans (aligned before old (caller'.symm.trans own)), by simp⟩

theorem wantToken_traced (awaits : context.Awaits message (.token wish))
    (free : shared.logins.Without caller) :
    (wantToken setup caller message wish shared context).Traced caller shared none message
      context := by
  unfold wantToken
  split
  · next token left served =>
    obtain ⟨held, fresh, follows, same⟩ := Logins.arrive_served served
    have free' : left.Without caller := by
      intro share member
      rw [same] at member
      exact free share member
    refine after_traced (granted_traced awaits follows free' ?_) (by simp) ?_
    · rintro _ ⟨⟩
      exact .inl ⟨held, fresh⟩
    · intro _
      exact ⟨wish.account, token, granted_actsFor awaits token _, held, fresh⟩
  · next left unserved =>
    obtain ⟨follows, shares⟩ := Logins.arrive_unserved unserved
    -- The caller had no share before, so the only one that it has is the one it has just taken.
    have own (share : Logins.Share) (member : share ∈ left.shares)
        (mine : share.caller = caller) :
        share.account = wish.account ∧ share.deadline = none := by
      rcases shares share member with old | new
      · exact (free share old mine).elim
      · exact new
    have waits : Stretch.Traced caller shared none message context
        { shared := { shared with logins := left }, context, stage := .waiting (.token wish) } := by
      apply waiting_traced follows (by simp) (by simp)
      intro share member mine
      obtain ⟨account, unbegun⟩ := own share member mine
      refine ⟨account, ?_⟩
      intro begun
      rw [unbegun] at begun
      cases begun
    dsimp only
    split
    · exact waits
    · next share found =>
      split
      · exact enter_traced awaits follows (fun share member mine => (own share member mine).1) found
      · exact waits

theorem loginEnded_traced (awaits : context.Awaits message (.token wish))
    (aligned : Aligned shared.logins caller wish) {share : Logins.Share}
    (found : shared.logins.share? caller = some share) (result : Except PlatformError Token) :
    (loginEnded message wish share result shared context).Traced caller shared
      (result.toOption.map fun token => (wish.account, token)) message context := by
  have mine : share.caller = caller := by
    simpa using List.find?_some found
  have same := aligned share (List.mem_of_find?_eq_some found) mine
  obtain ⟨follows, free⟩ := Logins.finish_follows shared.logins share result
  rw [mine, same] at follows
  rw [mine] at free
  have counted (evicted : Option Account) :
      (∀ request, .execute request ∉ if evicted.isSome then [Effect.count .tokenEvicted] else []) ∧
        .count .tokenHit ∉ if evicted.isSome then [Effect.count .tokenEvicted] else [] := by
    cases evicted <;> simp
  unfold loginEnded
  refine after_traced (granted_traced awaits follows free ?_) (counted _).1 ?_
  · rintro token rfl
    exact .inr rfl
  · intro hit
    exact ((counted _).2 hit).elim

theorem rest_traced (free : shared.logins.Without caller) {result : Except Failure Json}
    (fails : message.command = some .login → ∀ model, result ≠ .ok model) :
    (rest shared context result).Traced caller shared given message context := by
  refine apart_traced (.refl _ _ _) free rfl (by simp [rest]) (by simp [rest]) ?_
  intro login model finished
  cases finished
  exact fails login model rfl

theorem login_traced (grounded : context.Grounded) (logsIn : message.command = some .login)
    (free : shared.logins.Without caller) :
    (login setup caller message shared context).Traced caller shared none message context := by
  unfold login
  dsimp only
  split
  · exact rest_traced free (by simp)
  · split
    · exact rest_traced free (by simp)
    · next bound name done =>
      obtain ⟨standing, credentials, kept⟩ := resolveLogin_eq_ok done
      have same : bound.isAuthenticated = context.isAuthenticated := by
        simp [Context.isAuthenticated, standing]
      -- Whoever is logged in is so at the library that the session is bound to already.
      have back {stretch : Stretch}
          (traced : stretch.Traced caller shared none message bound) :
          stretch.Traced caller shared none message context := {
        traced with
        enters := by
          intro authenticated
          rcases traced.enters authenticated with ⟨before, tenant, named⟩ | enters
          · rw [same] at before
            rw [kept (grounded before).1] at tenant
            exact .inl ⟨before, tenant, named.trans credentials⟩
          · exact .inr enters }
      split
      · exact back (rest_traced free (by simp))
      · next tenant taken => exact back (wantToken_traced ⟨taken, logsIn, rfl⟩ free)

theorem status_traced (free : shared.logins.Without caller)
    (other : message.command ≠ some .login) :
    (status setup shared context).Traced caller shared none message context := by
  unfold status
  split
  · exact rest_traced free (by simp)
  · exact rest_traced free fun login => (other login).elim

theorem start_traced (stock : setup.handlers = Handler.stock) (grounded : context.Grounded)
    (gate : message.isBusiness = true → context.isAuthenticated = true)
    (free : shared.logins.Without caller) :
    (start setup caller message shared context).Traced caller shared none message context := by
  cases business : message.isBusiness with
  | true =>
    obtain ⟨taken, named⟩ := grounded (gate business)
    obtain ⟨tenant, taken⟩ := Option.isSome_iff_exists.mp taken
    obtain ⟨credentials, named⟩ := Option.isSome_iff_exists.mp named
    rw [start_eq_forward stock business]
    unfold forward
    simp only [taken, named]
    exact wantToken_traced ⟨taken, business, gate business, named⟩ free
  | false =>
    have refused : (fail shared context (.unrecognized message.code)).Traced caller shared none
        message context := rest_traced free (by simp)
    unfold start
    cases named : message.command with
    | none => exact refused
    | some command =>
      rw [Message.isBusiness_of_command named] at business
      simp only [Option.bind_some, stock, Handler.lookup_stock]
      cases command with
      | login => exact login_traced grounded named free
      | scStatus => exact status_traced free (by simp [named])
      | requestAcsResend => exact refused
      | _ => cases business

/-- The token that a reply gives to a request that waits. -/
def given? : Wait → Reply → Option (Account × Token)
  | .token wish, .login (.ok token) => some (wish.account, token)
  | _, _ => none

/-- How the shares of a caller go with what its request waits for. -/
def Waits (logins : Logins) (caller : Nat) : Wait → Prop
  | .token wish => Aligned logins caller wish
  | _ => logins.Without caller

theorem resume?_traced {wait : Wait} {reply : Reply} {stretch : Stretch}
    (awaits : context.Awaits message wait) (waits : Waits shared.logins caller wait)
    (resumes : resume? setup caller message wait shared context reply = some stretch) :
    stretch.Traced caller shared (given? wait reply) message context := by
  cases resumption_of_resume? resumes with
  | admitted found => exact enter_traced awaits (.refl _ _ _) waits found
  | login result found =>
    have ended := loginEnded_traced awaits waits found result
    cases result with
    | ok token => exact ended
    | error error => exact ended
  | platform account result =>
    obtain ⟨business, -⟩ := awaits
    have other : message.command ≠ some .login := by
      intro login
      exact Message.not_business_of_login login business
    unfold platformAnswered
    split
    · split
      · exact rest_traced waits (by simp)
      · exact rest_traced waits fun login => (other login).elim
    · exact fail_traced (Logins.invalidate_follows _ _ _) waits _
    · exact rest_traced waits (by simp)
  | handler => exact awaits.elim

end Dispatch

end SelfCheck
