import SelfCheck.Proofs.Dispatch.Provenance

/-! What has been sent when a request waits for the platform.

A stretch that ends with waiting for the platform has just sent its request there. The token in it
is the one that the store has for the account at the end of the stretch: it has been found there, or
a login has put it there.
-/

set_option autoImplicit false

namespace SelfCheck

/-- A request to the platform for an account with a token. -/
def PlatformRequest.Carries (request : PlatformRequest) (account : Account) (token : Token) :
    Prop :=
  request.tenant = account.tenant ∧ request.token = token.text

/-- Effects with requests to the platform, all of them for an account and with a token. -/
structure Effect.Send (effects : List Effect) (account : Account) (token : Token) : Prop where
  some : ∃ request, .execute request ∈ effects
  all : ∀ request, .execute request ∈ effects → request.Carries account token

/-- A stretch that waits for the platform has sent its request with the token in the store. -/
def Stretch.Asks (stretch : Stretch) : Prop :=
  ∀ account, stretch.stage = .waiting (.platform account) → ∃ token,
    Effect.Send stretch.effects account token ∧
      stretch.shared.logins.cache.token? account = some token

namespace Dispatch

variable {setup : Setup} {caller : Nat} {message : Message} {wish : TokenWish} {shared : Shared}
  {context : Context} {stretch : Stretch}

theorem asks_of_finished {result : Except Failure Json} (ends : stretch.stage = .finished result) :
    stretch.Asks := by
  intro account waits
  rw [ends] at waits
  cases waits

theorem asks_of_waiting {wait : Wait} (waits : stretch.stage = .waiting wait)
    (elsewhere : ∀ account, wait ≠ .platform account) : stretch.Asks := by
  intro account waits'
  rw [waits] at waits'
  cases waits'
  exact (elsewhere account rfl).elim

theorem after_asks {effects : List Effect} (silent : ∀ request, .execute request ∉ effects)
    (asks : stretch.Asks) : (Stretch.after effects stretch).Asks := by
  intro account waits
  obtain ⟨token, ⟨⟨request, sent⟩, all⟩, stored⟩ := asks account waits
  refine ⟨token, ⟨⟨request, List.mem_append_right _ sent⟩, ?_⟩, stored⟩
  intro request member
  rcases List.mem_append.mp member with early | late
  · exact (silent request early).elim
  · exact all request late

theorem granted_asks {result : Except PlatformError Token}
    (stored : ∀ token, result = .ok token →
      shared.logins.cache.token? wish.account = some token) :
    (granted message wish result shared context).Asks := by
  unfold granted
  split
  · exact asks_of_finished rfl
  · exact asks_of_finished rfl
  · exact asks_of_finished rfl
  · next token _ =>
    split
    · exact asks_of_finished rfl
    · intro account waits
      cases waits
      refine ⟨token, ⟨⟨_, List.mem_singleton_self _⟩, ?_⟩, stored token rfl⟩
      intro request member
      cases List.mem_singleton.mp member
      exact ⟨rfl, rfl⟩

theorem enter_asks {share : Logins.Share} (same : share.account = wish.account) :
    (enter setup message wish share shared context).Asks := by
  unfold enter
  split
  · next token left served =>
    apply after_asks (by simp)
    apply granted_asks
    rintro _ ⟨⟩
    rw [← same]
    exact Logins.enter_keeps served
  · exact asks_of_waiting rfl (by simp)

theorem wantToken_asks (free : shared.logins.Without caller) :
    (wantToken setup caller message wish shared context).Asks := by
  unfold wantToken
  split
  · next token left served =>
    apply after_asks (by simp)
    apply granted_asks
    rintro _ ⟨⟩
    exact Logins.arrive_keeps served
  · next left unserved =>
    dsimp only
    split
    · exact asks_of_waiting rfl (by simp)
    · next share found =>
      split
      · apply enter_asks
        obtain ⟨-, shares⟩ := Logins.arrive_unserved unserved
        rcases shares share (List.mem_of_find?_eq_some found) with old | ⟨account, -⟩
        · exact (free share old (by simpa using List.find?_some found)).elim
        · exact account
      · exact asks_of_waiting rfl (by simp)

theorem loginEnded_asks {share : Logins.Share} (same : share.account = wish.account)
    (result : Except PlatformError Token) :
    (loginEnded message wish share result shared context).Asks := by
  unfold loginEnded
  apply after_asks
  · intro request
    split <;> simp
  apply granted_asks
  rintro token rfl
  rw [← same]
  exact Logins.finish_keeps _ _ _

theorem platformAnswered_asks (account : Account) (result : Except PlatformError Json) :
    (platformAnswered setup message account result shared context).Asks := by
  unfold platformAnswered
  split
  · split
    · exact asks_of_finished rfl
    · exact asks_of_finished rfl
  · exact asks_of_finished rfl
  · exact asks_of_finished rfl

theorem login_asks (free : shared.logins.Without caller) :
    (login setup caller message shared context).Asks := by
  unfold login
  dsimp only
  split
  · exact asks_of_finished rfl
  · split
    · exact asks_of_finished rfl
    · split
      · exact asks_of_finished rfl
      · exact wantToken_asks free

theorem forward_asks (free : shared.logins.Without caller) :
    (forward setup caller message shared context).Asks := by
  unfold forward
  split
  · exact asks_of_finished rfl
  · exact asks_of_finished rfl
  · exact wantToken_asks free

theorem start_asks (free : shared.logins.Without caller) :
    (start setup caller message shared context).Asks := by
  unfold start
  split
  · exact asks_of_finished rfl
  · exact login_asks free
  · unfold status
    split
    · exact asks_of_finished rfl
    · exact asks_of_finished rfl
  · exact forward_asks free
  · exact asks_of_waiting rfl (by simp)

theorem resume?_asks {wait : Wait} {reply : Reply} (waits : Waits shared.logins caller wait)
    (resumes : resume? setup caller message wait shared context reply = some stretch) :
    stretch.Asks := by
  have account {wish : TokenWish} {share : Logins.Share}
      (aligned : Aligned shared.logins caller wish)
      (found : shared.logins.share? caller = some share) : share.account = wish.account :=
    aligned share (List.mem_of_find?_eq_some found) (by simpa using List.find?_some found)
  cases resumption_of_resume? resumes with
  | admitted found => exact enter_asks (account waits found)
  | login result found => exact loginEnded_asks (account waits found) result
  | platform own result => exact platformAnswered_asks own result
  | handler => exact asks_of_finished rfl

end Dispatch

end SelfCheck
