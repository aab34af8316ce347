import SelfCheck.Proofs.Dispatch

/-! What a failure lets the terminal know.

A login that fails is answered in the form of a login. A request that the policy can switch off has
no such form: whichever way it fails in the hands of its handler, the terminal gets the one text
that it gets for any trouble.
-/

set_option autoImplicit false

namespace SelfCheck

/-- A failure that does not show what it is about. -/
structure Failure.Discreet (failure : Failure) : Prop where
  words : failure.cause.publicText = Cause.troubleText
  bare : failure.answer = none

/-- A stretch that fails discreetly, if it does. -/
def Stretch.Discreet (stretch : Stretch) : Prop :=
  ∀ failure, stretch.stage = .finished (.error failure) → failure.Discreet

namespace Dispatch

variable {setup : Setup} {caller : Nat} {message : Message} {wish : TokenWish} {shared : Shared}
  {context : Context}

theorem waiting_discreet {stretch : Stretch} {wait : Wait}
    (waits : stretch.stage = .waiting wait) : stretch.Discreet := by
  intro failure finished
  rw [waits] at finished
  cases finished

theorem succeeded_discreet {stretch : Stretch} {model : Json}
    (succeeds : stretch.stage = .finished (.ok model)) : stretch.Discreet := by
  intro failure finished
  rw [succeeds] at finished
  cases finished

theorem fail_discreet {cause : Cause} (words : cause.publicText = Cause.troubleText) :
    (fail shared context cause).Discreet := by
  intro failure finished
  cases finished
  exact ⟨words, rfl⟩

theorem after_discreet {stretch : Stretch} (effects : List Effect) (discreet : stretch.Discreet) :
    (Stretch.after effects stretch).Discreet := discreet

theorem granted_discreet (aim : wish.purpose = .forward) (result : Except PlatformError Token) :
    (granted message wish result shared context).Discreet := by
  unfold granted
  rw [aim]
  cases result with
  | error error => exact fail_discreet rfl
  | ok token =>
    cases message.command with
    | none => exact fail_discreet rfl
    | some command => exact waiting_discreet rfl

theorem enter_discreet (aim : wish.purpose = .forward) (share : Logins.Share) :
    (enter setup message wish share shared context).Discreet := by
  apply enter_holds
  · exact fun _ _ => after_discreet _ (granted_discreet aim _)
  · exact fun _ => waiting_discreet rfl

theorem wantToken_discreet (aim : wish.purpose = .forward) :
    (wantToken setup caller message wish shared context).Discreet := by
  apply wantToken_holds
  · exact fun _ _ => after_discreet _ (granted_discreet aim _)
  · exact fun _ => waiting_discreet rfl
  · exact fun _ => waiting_discreet rfl

theorem platformAnswered_discreet (account : Account) (result : Except PlatformError Json) :
    (platformAnswered setup message account result shared context).Discreet := by
  unfold platformAnswered
  split
  · split
    · exact fail_discreet rfl
    · exact succeeded_discreet rfl
  · exact fail_discreet rfl
  · exact fail_discreet rfl

theorem forward_discreet : (forward setup caller message shared context).Discreet := by
  unfold forward
  split
  · exact fail_discreet rfl
  · exact fail_discreet rfl
  · exact wantToken_discreet rfl

theorem start_discreet (stock : setup.handlers = Handler.stock)
    (business : message.isBusiness = true) :
    (start setup caller message shared context).Discreet := by
  rw [start_eq_forward stock business]
  exact forward_discreet

/-- A token that a business request waits for is wanted to send it on. -/
theorem forward_of_awaits (business : message.isBusiness = true)
    (awaits : context.Awaits message (.token wish)) : wish.purpose = .forward := by
  cases aim : wish.purpose with
  | forward => rfl
  | login =>
    obtain ⟨-, purpose⟩ := awaits
    simp only [aim] at purpose
    exact (Message.not_business_of_login purpose.1 business).elim

theorem resume?_discreet (business : message.isBusiness = true) {wait : Wait} {reply : Reply}
    {stretch : Stretch} (awaits : context.Awaits message wait)
    (resumes : resume? setup caller message wait shared context reply = some stretch) :
    stretch.Discreet := by
  cases resumption_of_resume? resumes with
  | admitted => exact enter_discreet (forward_of_awaits business awaits) _
  | login result =>
    exact after_discreet _ (granted_discreet (forward_of_awaits business awaits) result)
  | platform account result => exact platformAnswered_discreet account result
  | handler => exact awaits.elim

theorem loginEnded_refused (aim : wish.purpose = .forward) (share : Logins.Share)
    (error : PlatformError) :
    (loginEnded message wish share (.error error) shared context).stage =
      .finished (.error { cause := .loginLost error }) := by
  simp [loginEnded, granted, aim, Stretch.after, fail, rest]

theorem platformAnswered_refused (account : Account) (error : PlatformError) :
    ∃ failure, (platformAnswered setup message account (.error error) shared context).stage =
      .finished (.error failure) := by
  cases error <;> exact ⟨_, rfl⟩

end Dispatch

end SelfCheck
