import SelfCheck.Proofs.Answer
import SelfCheck.Proofs.Dispatch

/-! Where the texts of an answer come from.

Handling a request writes nothing itself. A failure is told in the gateway's own words. A success
that is not a bare flag is the platform's answer or the status of a library and its station: no
other text from outside gets into an answer, except the request's own.
-/

set_option autoImplicit false

namespace SelfCheck

/-- A failure that is told in the gateway's own words. -/
structure Failure.Plain (failure : Failure) : Prop where
  words : failure.cause.publicText = Cause.troubleText
  answer : ∀ answer, failure.answer = some answer → answer.Unbroken

/-- What the terminal may get to read of a stretch: nothing but an answer, with no carriage return
in what its template may write that is not in a borrowed text. -/
structure Stretch.Speaks (message : Message) (borrowed : List String) (stretch : Stretch) :
    Prop where
  unwritten : stretch.effects.filterMap Effect.written? = []
  fails : ∀ failure, stretch.stage = .finished (.error failure) → failure.Plain
  succeeds : ∀ model, stretch.stage = .finished (.ok model) →
    ∀ command, message.command = some command →
      ∀ s ∈ Templates.bundledTexts command model, s ∈ borrowed ∨ Text.Unbroken s

namespace Dispatch

variable {setup : Setup} {caller : Nat} {message : Message} {wish : TokenWish} {shared : Shared}
  {context : Context} {borrowed : List String}

theorem refusal_plain {cause : Cause} (words : cause.publicText = Cause.troubleText) :
    (refusal cause).Plain where
  words := words
  answer := by
    rintro answer same
    cases same
    exact Answer.flag_unbroken false

theorem waiting_speaks {stretch : Stretch} {wait : Wait} (waits : stretch.stage = .waiting wait)
    (unwritten : stretch.effects.filterMap Effect.written? = []) :
    stretch.Speaks message borrowed := by
  refine ⟨unwritten, ?_, ?_⟩
  · intro failure finished
    rw [waits] at finished
    cases finished
  · intro model finished
    rw [waits] at finished
    cases finished

theorem failed_speaks {stretch : Stretch} {failure : Failure} (plain : failure.Plain)
    (fails : stretch.stage = .finished (.error failure))
    (unwritten : stretch.effects.filterMap Effect.written? = []) :
    stretch.Speaks message borrowed := by
  refine ⟨unwritten, ?_, ?_⟩
  · intro other finished
    rw [fails] at finished
    cases finished
    exact plain
  · intro model finished
    rw [fails] at finished
    cases finished

theorem fail_speaks {cause : Cause} (words : cause.publicText = Cause.troubleText) :
    (fail shared context cause).Speaks message borrowed :=
  failed_speaks ⟨words, by simp⟩ rfl rfl

theorem refused_speaks {cause : Cause} (words : cause.publicText = Cause.troubleText) :
    (rest shared context (.error (refusal cause))).Speaks message borrowed :=
  failed_speaks (refusal_plain words) rfl rfl

theorem succeeded_speaks {stretch : Stretch} {model : Json}
    (succeeds : stretch.stage = .finished (.ok model))
    (texts : ∀ command, message.command = some command →
      ∀ s ∈ Templates.bundledTexts command model, s ∈ borrowed ∨ Text.Unbroken s)
    (unwritten : stretch.effects.filterMap Effect.written? = []) :
    stretch.Speaks message borrowed := by
  refine ⟨unwritten, ?_, ?_⟩
  · intro failure finished
    rw [succeeds] at finished
    cases finished
  · intro other finished
    rw [succeeds] at finished
    cases finished
    exact texts

theorem after_speaks {stretch : Stretch} {effects : List Effect}
    (speaks : stretch.Speaks message borrowed)
    (unwritten : effects.filterMap Effect.written? = []) :
    (Stretch.after effects stretch).Speaks message borrowed := by
  refine ⟨?_, speaks.fails, speaks.succeeds⟩
  change (effects ++ stretch.effects).filterMap Effect.written? = []
  rw [List.filterMap_append, unwritten, speaks.unwritten]
  rfl

theorem granted_speaks (result : Except PlatformError Token) :
    (granted message wish result shared context).Speaks message borrowed := by
  unfold granted
  split
  · refine succeeded_speaks rfl (fun command _ s inside => .inr ?_) rfl
    exact Answer.flag_unbroken true s (Templates.bundledTexts_subset command _ inside)
  · exact failed_speaks (refusal_plain rfl) rfl rfl
  · exact fail_speaks rfl
  · split
    · exact fail_speaks rfl
    · exact waiting_speaks rfl rfl

theorem enter_speaks (share : Logins.Share) :
    (enter setup message wish share shared context).Speaks message borrowed := by
  apply enter_holds
  · exact fun _ _ => after_speaks (granted_speaks _) rfl
  · exact fun _ => waiting_speaks rfl rfl

theorem wantToken_speaks :
    (wantToken setup caller message wish shared context).Speaks message borrowed := by
  apply wantToken_holds
  · exact fun _ _ => after_speaks (granted_speaks _) rfl
  · exact fun _ => waiting_speaks rfl rfl
  · exact fun _ => waiting_speaks rfl rfl

theorem loginEnded_speaks (share : Logins.Share) (result : Except PlatformError Token) :
    (loginEnded message wish share result shared context).Speaks message borrowed := by
  unfold loginEnded
  dsimp only
  apply after_speaks (granted_speaks _)
  split <;> rfl

/-- The texts that a reply brings into the answer to a request. -/
def replyTexts (message : Message) : Reply → List String
  | .platform (.ok answer) =>
    (message.command.map fun command => Answer.platformTexts command answer).getD []
  | _ => []

theorem platformAnswered_speaks (clean : message.Unbroken) (account : Account)
    (result : Except PlatformError Json) :
    (platformAnswered setup message account result shared context).Speaks message
      (replyTexts message (.platform result)) := by
  unfold platformAnswered
  split
  · next answer =>
    split
    · exact fail_speaks rfl
    · next command named =>
      refine succeeded_speaks rfl (fun other same s inside => ?_) rfl
      rw [named] at same
      cases same
      simp only [replyTexts, named, Option.map_some, Option.getD_some]
      exact Answer.complete_texts clean _ _ _ s inside
  · exact fail_speaks rfl
  · exact fail_speaks rfl

theorem login_speaks : (login setup caller message shared context).Speaks message borrowed := by
  unfold login
  dsimp only
  split
  · exact refused_speaks rfl
  · split
    · next cause fails =>
      apply refused_speaks
      rcases resolveLogin_eq_error fails with rfl | ⟨bound, refused, rfl⟩ <;> rfl
    · split
      · exact refused_speaks rfl
      · exact wantToken_speaks

/-- The texts of library and station that a status request brings into its answer. -/
def statusTexts (message : Message) (context : Context) : List String :=
  match message.command, context.tenant with
  | some .scStatus, some tenant => Answer.stationTexts tenant context.station
  | _, _ => []

theorem status_speaks (asked : message.command = some .scStatus) :
    (status setup shared context).Speaks message (statusTexts message context) := by
  unfold status statusTexts
  rw [asked]
  cases context.tenant with
  | none => exact fail_speaks rfl
  | some tenant =>
    refine succeeded_speaks rfl (fun command _ s inside => ?_) rfl
    exact Answer.status_strings _ _ _ _ s (Templates.bundledTexts_subset command _ inside)

theorem forward_speaks : (forward setup caller message shared context).Speaks message borrowed := by
  unfold forward
  split
  · exact fail_speaks rfl
  · exact fail_speaks rfl
  · exact wantToken_speaks

theorem start_speaks (stock : setup.handlers = Handler.stock) :
    (start setup caller message shared context).Speaks message (statusTexts message context) := by
  unfold start
  cases named : message.command with
  | none => exact fail_speaks rfl
  | some command =>
    simp only [Option.bind_some, stock, Handler.lookup_stock]
    cases command with
    | login => exact login_speaks
    | scStatus => exact status_speaks named
    | requestAcsResend => exact fail_speaks rfl
    | _ => exact forward_speaks

theorem resume?_speaks (clean : message.Unbroken) {wait : Wait} {reply : Reply}
    {stretch : Stretch} (awaits : context.Awaits message wait)
    (resumes : resume? setup caller message wait shared context reply = some stretch) :
    stretch.Speaks message (replyTexts message reply) := by
  -- A slot or a login brings no text along; only the platform's answer does.
  cases resumption_of_resume? resumes with
  | admitted => exact enter_speaks _
  | login result => exact loginEnded_speaks _ result
  | platform account result => exact platformAnswered_speaks clean account result
  | handler => exact awaits.elim

end Dispatch

end SelfCheck
