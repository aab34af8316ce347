import SelfCheck.Proofs.Dispatch

/-! Which requests find a handler.

With the gateway's own table every command but one has a handler, and that one never gets to the
table: the session itself answers it. Whatever becomes of a request with a command later, it does
not fail for want of a handler.
-/

set_option autoImplicit false

namespace SelfCheck

theorem Handler.stock?_isSome (command : Command) :
    (stock? command).isSome = true ↔ command ≠ .requestAcsResend := by
  cases command <;> decide

/-- A failure that is not for want of a handler. -/
def Failure.Recognized (failure : Failure) : Prop := ∀ code, failure.cause ≠ .unrecognized code

/-- What becomes of a request that has found a handler. -/
def Stretch.Recognizes (stretch : Stretch) : Prop :=
  ∀ failure, stretch.stage = .finished (.error failure) → failure.Recognized

namespace Dispatch

variable {setup : Setup} {caller : Nat} {message : Message} {wish : TokenWish} {shared : Shared}
  {context : Context} {command : Command}

theorem waiting_recognizes {stretch : Stretch} {wait : Wait}
    (waits : stretch.stage = .waiting wait) : stretch.Recognizes := by
  intro failure finished
  rw [waits] at finished
  cases finished

theorem succeeded_recognizes {stretch : Stretch} {model : Json}
    (succeeds : stretch.stage = .finished (.ok model)) : stretch.Recognizes := by
  intro failure finished
  rw [succeeds] at finished
  cases finished

theorem failed_recognizes {stretch : Stretch} {failure : Failure}
    (fails : stretch.stage = .finished (.error failure)) (recognized : failure.Recognized) :
    stretch.Recognizes := by
  intro other finished
  rw [fails] at finished
  cases finished
  exact recognized

/-- Effects in front of a stretch do not matter. -/
theorem after_recognizes {stretch : Stretch} (effects : List Effect)
    (recognizes : stretch.Recognizes) : (Stretch.after effects stretch).Recognizes :=
  recognizes

theorem granted_recognizes (named : message.command = some command)
    (result : Except PlatformError Token) :
    (granted message wish result shared context).Recognizes := by
  unfold granted
  rw [named]
  split
  · exact succeeded_recognizes rfl
  · exact failed_recognizes rfl (by simp [Failure.Recognized, refusal])
  · exact failed_recognizes rfl (by simp [Failure.Recognized])
  · exact waiting_recognizes rfl

theorem enter_recognizes (named : message.command = some command) (share : Logins.Share) :
    (enter setup message wish share shared context).Recognizes := by
  apply enter_holds
  · exact fun _ _ => after_recognizes _ (granted_recognizes named _)
  · exact fun _ => waiting_recognizes rfl

theorem wantToken_recognizes (named : message.command = some command) :
    (wantToken setup caller message wish shared context).Recognizes := by
  apply wantToken_holds
  · exact fun _ _ => after_recognizes _ (granted_recognizes named _)
  · exact fun _ => waiting_recognizes rfl
  · exact fun _ => waiting_recognizes rfl

theorem platformAnswered_recognizes (named : message.command = some command) (account : Account)
    (result : Except PlatformError Json) :
    (platformAnswered setup message account result shared context).Recognizes := by
  unfold platformAnswered
  rw [named]
  split
  · exact succeeded_recognizes rfl
  · exact failed_recognizes rfl (by simp [Failure.Recognized])
  · exact failed_recognizes rfl (by simp [Failure.Recognized])

theorem login_recognizes (named : message.command = some command) :
    (login setup caller message shared context).Recognizes := by
  unfold login
  dsimp only
  split
  · exact failed_recognizes rfl (by simp [Failure.Recognized, refusal])
  · split
    · next cause fails =>
      apply failed_recognizes rfl
      rcases resolveLogin_eq_error fails with rfl | ⟨bound, refused, rfl⟩
      · simp [Failure.Recognized, refusal]
      · simp [Failure.Recognized, refusal]
    · split
      · exact failed_recognizes rfl (by simp [Failure.Recognized, refusal])
      · exact wantToken_recognizes named

theorem status_recognizes : (status setup shared context).Recognizes := by
  unfold status
  split
  · exact failed_recognizes rfl (by simp [Failure.Recognized])
  · exact succeeded_recognizes rfl

theorem forward_recognizes (named : message.command = some command) :
    (forward setup caller message shared context).Recognizes := by
  unfold forward
  split
  · exact failed_recognizes rfl (by simp [Failure.Recognized])
  · exact failed_recognizes rfl (by simp [Failure.Recognized])
  · exact wantToken_recognizes named

/-- Whatever has a command, and is not answered by the session itself, is taken on. -/
theorem start_recognizes (stock : setup.handlers = Handler.stock)
    (named : message.command = some command) (asked : command ≠ .requestAcsResend) :
    (start setup caller message shared context).Recognizes := by
  unfold start
  simp only [named, Option.bind_some, stock, Handler.lookup_stock]
  cases command with
  | login => exact login_recognizes named
  | scStatus => exact status_recognizes
  | requestAcsResend => exact (asked rfl).elim
  | _ => exact forward_recognizes named

theorem resume?_recognizes (named : message.command = some command) {wait : Wait} {reply : Reply}
    {stretch : Stretch} (awaits : context.Awaits message wait)
    (resumes : resume? setup caller message wait shared context reply = some stretch) :
    stretch.Recognizes := by
  cases resumption_of_resume? resumes with
  | admitted => exact enter_recognizes named _
  | login result => exact after_recognizes _ (granted_recognizes named result)
  | platform account result => exact platformAnswered_recognizes named account result
  | handler => exact awaits.elim

/-- A status request is answered at once, from the policy of the moment. -/
theorem start_status (stock : setup.handlers = Handler.stock)
    (asks : message.command = some .scStatus) {tenant : TenantId}
    (bound : context.tenant = some tenant) :
    start setup caller message shared context =
      rest shared context (.ok (Answer.status tenant (shared.policy.profile tenant).acs
        context.station (setup.localTime shared.now))) := by
  simp [start, asks, stock, Handler.lookup_stock, Handler.stock?, status, bound]

end Dispatch

end SelfCheck
