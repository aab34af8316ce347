import SelfCheck.Proofs.Dispatch.Provenance
import SelfCheck.Proofs.Session.Gate

/-! What a session does with tokens in one move, and with its shares in logins. -/

set_option autoImplicit false

namespace SelfCheck

namespace Session

/-- A session has shares only while its request waits for a token, and only for that account. -/
def Shares (session : Session) (logins : Logins) (caller : Nat) : Prop :=
  ∀ share ∈ logins.shares, share.caller = caller → ∃ message wish deadline,
    session.activity = .handling message (.token wish) deadline ∧ share.account = wish.account

theorem Shares.without {session : Session} {logins : Logins} {caller : Nat}
    (shares : session.Shares logins caller) (reading : session.isReading = true) :
    logins.Without caller := by
  intro share member mine
  obtain ⟨message, wish, deadline, busy, -⟩ := shares share member mine
  simp [isReading, busy] at reading

theorem Shares.waits {session : Session} {logins : Logins} {caller : Nat}
    (shares : session.Shares logins caller) {message : Message} {wait : Wait} {deadline : Nat}
    (busy : session.activity = .handling message wait deadline) :
    Dispatch.Waits logins caller wait := by
  have held (share : Logins.Share) (member : share ∈ logins.shares) (mine : share.caller = caller) :
      ∃ wish, wait = .token wish ∧ share.account = wish.account := by
    obtain ⟨other, wish, limit, busy', same⟩ := shares share member mine
    rw [busy] at busy'
    cases busy'
    exact ⟨wish, rfl, same⟩
  cases wait with
  | token wish =>
    intro share member mine
    obtain ⟨wish', same, account⟩ := held share member mine
    cases same
    exact account
  | platform account =>
    intro share member mine
    obtain ⟨wish, same, -⟩ := held share member mine
    cases same
  | handler =>
    intro share member mine
    obtain ⟨wish, same, -⟩ := held share member mine
    cases same

end Session

/-- The token that a move gets by the login of its own request. -/
def Deed.given? (activity : Activity) (deed : Deed) : Option (Account × Token) :=
  match activity, deed with
  | .handling _ wait _, resumed _ reply _ => Dispatch.given? wait reply
  | _, _ => none

/-- A request that succeeds has come to its end at its handler. -/
theorem Deed.stretch_of_success {deed : Deed} {message : Message} {command : Command}
    {model : Json} (succeeds : deed.outcome? = some (message, .success command model)) :
    ∃ stretch, deed.stretch? = some stretch ∧ deed.request? = some message ∧
      message.command = some command ∧ stretch.stage = .finished (.ok model) := by
  have handled (stretch : Stretch) (request : Message)
      (ends : stretch.result?.map (fun result => (request, Dispatch.outcome request result)) =
        some (message, .success command model)) :
      request = message ∧ message.command = some command ∧
        stretch.stage = .finished (.ok model) := by
    obtain ⟨result, finishes, same⟩ := Option.map_eq_some_iff.mp ends
    obtain ⟨rfl, outcome⟩ := Prod.mk.inj same
    refine ⟨rfl, ?_⟩
    cases result with
    | error failure => cases outcome
    | ok answer =>
      unfold Dispatch.outcome at outcome
      dsimp only at outcome
      split at outcome
      · next named =>
        cases outcome
        exact ⟨named, Stretch.result?_eq_some.mp finishes⟩
      · cases outcome
  cases deed with
  | dispatched frame request stretch =>
    obtain ⟨rfl, named, finished⟩ := handled stretch request succeeds
    exact ⟨stretch, rfl, rfl, named, finished⟩
  | resumed request reply stretch =>
    obtain ⟨rfl, named, finished⟩ := handled stretch request succeeds
    exact ⟨stretch, rfl, rfl, named, finished⟩
  | refused frame request cause => cases succeeds
  | late request =>
    unfold outcome? Session.lateOutcome at succeeds
    dsimp only at succeeds
    split at succeeds <;> cases succeeds
  | _ => cases succeeds

theorem Deed.given?_eq_none {activity : Activity} {deed : Deed}
    (other : ∀ message reply stretch, deed ≠ .resumed message reply stretch) :
    deed.given? activity = none := by
  unfold given?
  split
  · exact (other _ _ _ rfl).elim
  · rfl

/-- What a share of a session rests on after a move: its request waits for a token of that account,
and a login that has begun was begun in this move, or nothing has happened. -/
def Logins.Share.RestsOn (share : Logins.Share) (turn : Turn) (deed : Deed) (after : Turn) : Prop :=
  ∃ message wish deadline,
    after.session.activity = .handling message (.token wish) deadline ∧
      share.account = wish.account ∧
      (share.deadline.isSome = true → .login wish.account wish.password ∈ after.effects ∨
        deed = .quiet ∧ share ∈ turn.shared.logins.shares ∧
          after.session.activity = turn.session.activity)

namespace Turn

variable {setup : Setup} {caller : Nat} {turn after : Turn} {deed : Deed}

theorem Move.traced (stock : setup.handlers = Handler.stock) (sound : turn.session.Sound)
    (shares : turn.session.Shares turn.shared.logins caller)
    (move : Move setup caller turn deed after) {stretch : Stretch} {message : Message}
    (done : deed.stretch? = some stretch) (asked : deed.request? = some message) :
    stretch.Traced caller turn.shared (deed.given? turn.session.activity) message
      turn.session.context := by
  cases move with
  | dispatched reading _ _ _ gate =>
    cases done
    cases asked
    rw [Deed.given?_eq_none (by simp)]
    exact Dispatch.start_traced stock sound.grounded (authenticated_behind_gate gate)
      (shares.without reading)
  | resumed busy resumes =>
    cases done
    cases asked
    unfold Deed.given?
    rw [busy]
    exact Dispatch.resume?_traced (sound.waiting _ _ _ busy) (shares.waits busy) resumes
  | _ => cases done

/-- A quiet move leaves alone a session in the middle of a request. -/
theorem Move.quiet (move : Move setup caller turn .quiet after) {message : Message} {wait : Wait}
    {deadline : Nat} (busy : turn.session.activity = .handling message wait deadline) :
    after.session.activity = turn.session.activity := by
  cases move with
  | stored => rfl
  | waited reading => simp [Session.isReading, busy] at reading
  | severed => rfl

theorem Move.follows (stock : setup.handlers = Handler.stock) (sound : turn.session.Sound)
    (shares : turn.session.Shares turn.shared.logins caller)
    (move : Move setup caller turn deed after) :
    turn.shared.logins.Follows caller (deed.given? turn.session.activity)
      after.shared.logins := by
  rw [move.shared_eq]
  cases done : deed.stretch? with
  | some stretch =>
    obtain ⟨message, asked⟩ := move.request_of_stretch done
    have follows := (move.traced stock sound shares done asked).follows
    cases deed with
    | dispatched | resumed =>
      cases done
      exact follows
    | _ => cases done
  | none =>
    cases deed with
    | dispatched | resumed => cases done
    | late => exact Logins.leave_follows _ _ _
    | _ => exact .refl _ _ _

theorem Move.shares (stock : setup.handlers = Handler.stock) (sound : turn.session.Sound)
    (shares : turn.session.Shares turn.shared.logins caller)
    (move : Move setup caller turn deed after) {share : Logins.Share}
    (member : share ∈ after.shared.logins.shares) (mine : share.caller = caller) :
    share.RestsOn turn deed after := by
  rw [move.shared_eq] at member
  -- Whoever waits for the terminal has no share.
  have free (reading : turn.session.isReading = true)
      (held : share ∈ turn.shared.logins.shares) : False :=
    shares.without reading share held mine
  -- A quiet move may find the session in the middle of a request.
  have still (nothing : deed = .quiet) (held : share ∈ turn.shared.logins.shares) :
      share.RestsOn turn deed after := by
    subst nothing
    obtain ⟨message, wish, deadline, busy, account⟩ := shares share held mine
    have same := move.quiet busy
    exact ⟨message, wish, deadline, same.trans busy, account, fun _ => .inr ⟨rfl, held, same⟩⟩
  have waits {stretch : Stretch} {message : Message} (deadline : Nat)
      (traced : stretch.Traced caller turn.shared (deed.given? turn.session.activity) message
        turn.session.context)
      (held : share ∈ stretch.shared.logins.shares)
      (goes : after = turn.proceed setup message deadline stretch) :
      share.RestsOn turn deed after := by
    obtain ⟨wish, waiting, account, called⟩ := traced.own share held mine
    rw [goes, proceed_of_waiting waiting]
    refine ⟨message, wish, deadline, rfl, account, ?_⟩
    intro begun
    exact .inl (List.mem_append_right _ (called begun))
  -- What a handler does says itself what its shares rest on.
  have traced {stretch : Stretch} {message : Message} (done : deed.stretch? = some stretch)
      (asked : deed.request? = some message) := move.traced stock sound shares done asked
  cases move with
  | malformed reading => exact (free reading member).elim
  | asked reading => exact (free reading member).elim
  | repeated reading => exact (free reading member).elim
  | misplaced reading => exact (free reading member).elim
  | refused reading => exact (free reading member).elim
  | dispatched reading => exact waits _ (traced rfl rfl) member rfl
  | resumed busy => exact waits _ (traced rfl rfl) member rfl
  | late => exact (Logins.leave_without _ _ share member mine).elim
  | overlong reading => exact (free reading member).elim
  | ended reading => exact (free reading member).elim
  | stored => exact still rfl member
  | waited => exact still rfl member
  | severed => exact still rfl member

/-- A token is given to a request that has begun a login for its account. -/
theorem Move.given (move : Move setup caller turn deed after) {account : Account} {token : Token}
    (gives : deed.given? turn.session.activity = some (account, token)) :
    ∃ message wish deadline stretch share,
      deed = .resumed message (.login (.ok token)) stretch ∧
        turn.session.activity = .handling message (.token wish) deadline ∧
        account = wish.account ∧ share ∈ turn.shared.logins.shares ∧ share.caller = caller ∧
        share.deadline.isSome = true := by
  cases move with
  | @resumed message wait deadline reply stretch busy resumes =>
    rw [busy] at gives
    have given : Dispatch.given? wait reply = some (account, token) := gives
    cases Dispatch.resumption_of_resume? resumes with
    | login result found begun =>
      cases result with
      | error error => cases given
      | ok token =>
        cases given
        exact ⟨message, _, deadline, _, _, rfl, busy, rfl, List.mem_of_find?_eq_some found,
          by simpa using List.find?_some found, begun⟩
    | _ => cases given
  | _ => simp [Deed.given?_eq_none] at gives

end Turn

end SelfCheck
