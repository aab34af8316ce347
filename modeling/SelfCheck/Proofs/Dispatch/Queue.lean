import SelfCheck.Proofs.Dispatch
import SelfCheck.Proofs.Token.Course

/-! What requests do in the queues for tokens, and the deadlines that their logins get.

Handling a request moves logins only as callers do, one after the other. Whoever finds nobody in
front begins its login in the stretch in which it comes.
-/

set_option autoImplicit false

namespace SelfCheck

namespace Logins

variable {logins middle after : Logins} {now : Time.Moment} {happening : Happening} {caller : Nat}
  {share : Share}

/-- Logins that a caller, and nobody else, has brought from one state to another. -/
def TakenBy (caller : Nat) (before after : Logins) : Prop :=
  ∃ past, Course before past after ∧
    ∀ entry ∈ past, ∀ other, entry.happening.caller? = some other → other = caller

theorem TakenBy.refl (caller : Nat) (logins : Logins) : TakenBy caller logins logins :=
  ⟨[], .nil, by simp⟩

theorem Move.taken (move : Move logins now happening after)
    (own : ∀ other, happening.caller? = some other → other = caller) :
    TakenBy caller logins after :=
  ⟨_, .more .nil move, by simpa using own⟩

theorem Move.own (move : Move logins now happening after)
    (mine : happening.caller? = some caller) : TakenBy caller logins after :=
  move.taken fun _ does => Option.some.inj (does.symm.trans mine)

theorem Course.append {origin : Logins} {past later : List Entry}
    (course : Course origin past logins) (onward : Course logins later after) :
    Course origin (later ++ past) after := by
  induction onward with
  | nil => exact course
  | more _ move ih => exact .more ih move

theorem TakenBy.trans (first : TakenBy caller logins middle)
    (second : TakenBy caller middle after) : TakenBy caller logins after := by
  obtain ⟨earlier, course, mine⟩ := first
  obtain ⟨later, onward, mine'⟩ := second
  exact ⟨later ++ earlier, course.append onward, List.forall_mem_append.mpr ⟨mine', mine⟩⟩

theorem mem_leave_iff :
    share ∈ (logins.leave caller).shares ↔ share ∈ logins.shares ∧ share.caller ≠ caller := by
  simp [leave_shares]

/-- The shares of those who do nothing stay as they are. -/
theorem Change.mem_others (change : Change logins now happening after)
    (other : happening.caller? ≠ some share.caller) :
    share ∈ after.shares ↔ share ∈ logins.shares := by
  have differs {caller : Nat} (does : happening.caller? = some caller) : share.caller ≠ caller := by
    rintro rfl
    exact other does
  cases change with
  | served => exact Iff.rfl
  | joined _ _ shares =>
    rw [shares, List.mem_append, List.mem_singleton]
    refine or_iff_left ?_
    rintro rfl
    exact differs rfl rfl
  | admitted => exact mem_leave_iff.trans (and_iff_left (differs rfl))
  | @begun own deadline =>
    constructor
    · intro member
      obtain ⟨before, old, rfl⟩ := List.mem_map.mp member
      have apart := differs rfl
      rw [Share.begun_caller] at apart
      rwa [Share.begun_of_ne apart]
    · intro member
      exact List.mem_map.mpr ⟨share, member, Share.begun_of_ne (differs rfl)⟩
  | accepted => exact mem_leave_iff.trans (and_iff_left (differs rfl))
  | failed => exact mem_leave_iff.trans (and_iff_left (differs rfl))
  | dropped => exact mem_leave_iff.trans (and_iff_left (differs rfl))
  | invalidated => exact Iff.rfl

theorem TakenBy.mem_others (taken : TakenBy caller logins after) (other : share.caller ≠ caller) :
    share ∈ after.shares ↔ share ∈ logins.shares := by
  obtain ⟨past, course, mine⟩ := taken
  induction course with
  | nil => exact Iff.rfl
  | more course move ih =>
    obtain ⟨own, mine⟩ := List.forall_mem_cons.mp mine
    exact (move.change.mem_others fun does => other (own _ does)).trans (ih mine)

end Logins

/-- What becomes of shared things by the doing of one caller: time stands still, nobody else's share
changes, and a login that begins has its whole time. -/
structure Shared.Paced (setup : Setup) (caller : Nat) (before after : Shared) : Prop where
  clock : after.clock = before.clock
  taken : before.logins.TakenBy caller after.logins
  limits : ∀ share ∈ after.logins.shares, ∀ limit, share.deadline = some limit →
    share ∈ before.logins.shares ∨ limit = before.clock + setup.loginTimeout

theorem Shared.Paced.refl (setup : Setup) (caller : Nat) (shared : Shared) :
    shared.Paced setup caller shared :=
  ⟨rfl, .refl _ _, fun _ member _ _ => .inl member⟩

/-- A result in the form of a login's: it says yes, or it says no and why. -/
inductive LoginResult : Bool → Except Failure Json → Prop where
  | accepted : LoginResult true (.ok (Answer.flag true))
  | refused (cause : Cause) : LoginResult false (.error (Dispatch.refusal cause))

/-- A login that has its result. -/
def Stage.Decided (stage : Stage) : Prop :=
  ∃ ok result, LoginResult ok result ∧ stage = .finished result

theorem Stage.Decided.not_waiting {wait : Wait} : ¬(Stage.waiting wait).Decided := by
  rintro ⟨ok, result, -, ⟨⟩⟩

namespace Dispatch

open Logins (TakenBy)

variable {setup : Setup} {caller : Nat} {message : Message} {wish : TokenWish} {shared : Shared}
  {context : Context}

/-! The queues and the timers. -/

@[simp] theorem granted_shared (message : Message) (wish : TokenWish)
    (result : Except PlatformError Token) (shared : Shared) (context : Context) :
    (granted message wish result shared context).shared = shared := by
  unfold granted
  split
  · rfl
  · rfl
  · rfl
  · split <;> rfl

theorem enter_paced {share : Logins.Share} (found : shared.logins.share? caller = some share)
    (turn : shared.logins.mayEnter caller = true) :
    shared.Paced setup caller (enter setup message wish share shared context).shared := by
  have move : Logins.Move shared.logins shared.now _ _ :=
    .entered (shared.clock + setup.loginTimeout) found turn
  obtain ⟨held, rfl⟩ := Logins.share?_eq_some found
  unfold enter
  rcases shared.logins.cache.lacks_or_fresh share.account shared.now with
    lacks | ⟨token, known, fresh⟩
  · rw [Logins.enter_of_lacks _ lacks] at move ⊢
    refine ⟨rfl, move.own rfl, ?_⟩
    intro other member limit timed
    obtain ⟨before, old, rfl⟩ := List.mem_map.mp member
    by_cases mine : before.caller = share.caller
    · rw [Logins.Share.begun, if_pos mine] at timed
      exact .inr (Option.some.inj timed).symm
    · rw [Logins.Share.begun_of_ne mine]
      exact .inl old
  · rw [Logins.enter_of_fresh _ known fresh] at move ⊢
    refine ⟨by simp [Stretch.after], ?_, ?_⟩
    · simp only [Stretch.after, granted_shared]
      exact move.own rfl
    · intro other member _ _
      simp only [Stretch.after, granted_shared] at member
      exact .inl (Logins.mem_leave member).1

theorem wantToken_paced (free : shared.logins.Without caller) :
    shared.Paced setup caller (wantToken setup caller message wish shared context).shared := by
  have move : Logins.Move shared.logins shared.now _ _ := .arrived wish.account free
  have comes : shared.logins.TakenBy caller
      (shared.logins.arrive caller wish.account shared.now).2 := move.own rfl
  unfold wantToken
  split
  · next token left served =>
    obtain ⟨-, -, -, same⟩ := Logins.arrive_served served
    rw [served] at comes
    refine ⟨by simp [Stretch.after], by simpa [Stretch.after] using comes, ?_⟩
    intro share member _ _
    simp only [Stretch.after, granted_shared, same] at member
    exact .inl member
  · next left unserved =>
    obtain ⟨-, shares⟩ := Logins.arrive_unserved unserved
    rw [unserved] at comes
    -- A caller that has just come has no deadline yet.
    have timed (share : Logins.Share) (member : share ∈ left.shares) (limit : Nat)
        (begun : share.deadline = some limit) : share ∈ shared.logins.shares := by
      rcases shares share member with old | ⟨-, none⟩
      · exact old
      · rw [none] at begun
        cases begun
    have waits : shared.Paced setup caller { shared with logins := left } :=
      ⟨rfl, comes, fun share member limit begun => .inl (timed share member limit begun)⟩
    dsimp only
    split
    · exact waits
    · next share found =>
      split
      · next turn =>
        have goes : Shared.Paced setup caller { shared with logins := left }
            (enter setup message wish share { shared with logins := left } context).shared :=
          enter_paced found turn
        refine ⟨goes.clock, comes.trans goes.taken, ?_⟩
        intro other member limit begun
        exact (goes.limits other member limit begun).imp_left (timed other · limit begun)
      · exact waits

theorem loginEnded_paced {share : Logins.Share} (found : shared.logins.share? caller = some share)
    (begun : share.deadline.isSome = true) (result : Except PlatformError Token) :
    shared.Paced setup caller (loginEnded message wish share result shared context).shared := by
  have move : Logins.Move shared.logins shared.now _ _ := .ended result found begun
  obtain ⟨cache, left⟩ := Logins.finish_eq shared.logins share result
  unfold loginEnded
  refine ⟨by simp [Stretch.after], ?_, ?_⟩
  · simp only [Stretch.after, granted_shared]
    exact move.own rfl
  · intro other member _ _
    simp only [Stretch.after, granted_shared, left] at member
    exact .inl (Logins.mem_leave member).1

theorem start_paced (free : shared.logins.Without caller) :
    shared.Paced setup caller (start setup caller message shared context).shared := by
  unfold start
  split
  · exact .refl _ _ _
  · unfold login
    dsimp only
    split
    · exact .refl _ _ _
    · split
      · exact .refl _ _ _
      · split
        · exact .refl _ _ _
        · exact wantToken_paced free
  · unfold status
    split <;> exact .refl _ _ _
  · unfold forward
    split
    · exact .refl _ _ _
    · exact .refl _ _ _
    · exact wantToken_paced free
  · exact .refl _ _ _

theorem resume?_paced {wait : Wait} {reply : Reply} {stretch : Stretch}
    (resumes : resume? setup caller message wait shared context reply = some stretch) :
    shared.Paced setup caller stretch.shared := by
  cases resumption_of_resume? resumes with
  | admitted found turn => exact enter_paced found turn
  | login result found begun => exact loginEnded_paced found begun result
  | platform account result =>
    unfold platformAnswered
    split
    · split <;> exact .refl _ _ _
    · have move : Logins.Move shared.logins shared.now _ _ := .invalidated account
      refine ⟨rfl, move.taken ?_, ?_⟩
      · rintro _ ⟨⟩
      · exact fun share member _ _ => .inl member
    · exact .refl _ _ _
  | handler => exact .refl _ _ _

/-! Logins. -/

theorem purpose_of_awaits (awaits : context.Awaits message (.token wish))
    (named : message.command = some .login) : wish.purpose = .login := by
  obtain ⟨-, purpose⟩ := awaits
  cases aim : wish.purpose with
  | login => rfl
  | forward =>
    simp only [aim] at purpose
    exact (Message.not_business_of_login named purpose.1).elim

theorem granted_decided (aim : wish.purpose = .login) (result : Except PlatformError Token)
    (shared : Shared) : (granted message wish result shared context).stage.Decided := by
  unfold granted
  rw [aim]
  cases result with
  | ok token => exact ⟨true, _, .accepted, rfl⟩
  | error error => exact ⟨false, _, .refused _, rfl⟩

theorem enter_stage (aim : wish.purpose = .login) (share : Logins.Share) :
    (enter setup message wish share shared context).stage.Decided ∨
      (enter setup message wish share shared context).stage = .waiting (.token wish) := by
  unfold enter
  split
  · exact .inl (granted_decided aim _ _)
  · exact .inr rfl

theorem wantToken_stage (aim : wish.purpose = .login) :
    (wantToken setup caller message wish shared context).stage.Decided ∨
      (wantToken setup caller message wish shared context).stage = .waiting (.token wish) := by
  unfold wantToken
  split
  · exact .inl (granted_decided aim _ _)
  · dsimp only
    split
    · exact .inr rfl
    · split
      · exact enter_stage aim _
      · exact .inr rfl

/-- A caller that finds no token begins its login in the stretch in which it comes, if nobody is in
front. -/
theorem wantToken_of_lacks (orderly : shared.logins.Orderly) (free : shared.logins.Without caller)
    (alone : shared.logins.queue wish.account = [])
    (lacks : shared.logins.cache.Lacks wish.account shared.now) :
    let stretch := wantToken setup caller message wish shared context
    stretch.stage = .waiting (.token wish) ∧
      stretch.effects = [.count .tokenMiss, .login wish.account wish.password] ∧
      ∃ share ∈ stretch.shared.logins.shares,
        share.caller = caller ∧ share.deadline = some (shared.clock + setup.loginTimeout) := by
  intro stretch
  have ordered := orderly.arrive free wish.account shared.now
  unfold stretch wantToken
  obtain ⟨gate, left, joins, shares, cache, -⟩ := Logins.arrive_of_lacks caller lacks
  rw [joins] at ordered ⊢
  have held : (⟨caller, wish.account, gate, none⟩ : Logins.Share) ∈ left.shares := by
    rw [shares]
    exact List.mem_append_right _ (List.mem_singleton_self _)
  have first : left.queue wish.account = [⟨caller, wish.account, gate, none⟩] := by
    rw [Logins.queue, shares, List.filter_append]
    change shared.logins.queue wish.account ++ _ = _
    simp [alone]
  have turn : left.mayEnter caller = true :=
    (ordered.mayEnter_iff held).mpr ⟨rfl, by rw [first]; rfl⟩
  have poor : left.cache.Lacks wish.account shared.now := by
    intro token known
    rw [cache, TokenCache.token?_touch] at known
    exact lacks token known
  have found : left.share? caller = some ⟨caller, wish.account, gate, none⟩ :=
    ordered.share?_eq held
  simp only [found, turn, if_true, enter]
  rw [Logins.enter_of_lacks _ poor]
  exact ⟨rfl, rfl, _, List.mem_map.mpr ⟨_, held, rfl⟩, by simp, by simp [Logins.Share.begun]⟩

theorem wantToken_prompt (aim : wish.purpose = .login) (orderly : shared.logins.Orderly)
    (free : shared.logins.Without caller) (alone : shared.logins.queue wish.account = [])
    (undecided : ¬(wantToken setup caller message wish shared context).stage.Decided) :
    ∃ share ∈ (wantToken setup caller message wish shared context).shared.logins.shares,
      share.caller = caller ∧ share.deadline = some (shared.clock + setup.loginTimeout) := by
  rcases shared.logins.cache.lacks_or_fresh wish.account shared.now with
    lacks | ⟨token, known, fresh⟩
  · exact (wantToken_of_lacks orderly free alone lacks).2.2
  · unfold wantToken at undecided
    rw [Logins.arrive_of_fresh caller known fresh] at undecided
    exact (undecided (granted_decided aim _ _)).elim

theorem wantToken_login (aim : wish.purpose = .login) (orderly : shared.logins.Orderly)
    (free : shared.logins.Without caller) :
    let stretch := wantToken setup caller message wish shared context
    stretch.stage.Decided ∨ stretch.stage = .waiting (.token wish) ∧
      (shared.logins.queue wish.account = [] → ∃ share ∈ stretch.shared.logins.shares,
        share.caller = caller ∧ share.deadline = some (shared.clock + setup.loginTimeout)) := by
  intro stretch
  rcases wantToken_stage aim with done | waits
  · exact .inl done
  · refine .inr ⟨waits, fun alone => wantToken_prompt aim orderly free alone ?_⟩
    rw [waits]
    exact Stage.Decided.not_waiting

/-- A login is decided in the stretch in which it comes, or waits for a token from then on, with a
login of its own if nobody is in front. -/
theorem start_login (stock : setup.handlers = Handler.stock)
    (named : message.command = some .login) (orderly : shared.logins.Orderly)
    (free : shared.logins.Without caller) :
    let stretch := start setup caller message shared context
    stretch.stage.Decided ∨ ∃ wish, stretch.stage = .waiting (.token wish) ∧
      (shared.logins.queue wish.account = [] → ∃ share ∈ stretch.shared.logins.shares,
        share.caller = caller ∧ share.deadline = some (shared.clock + setup.loginTimeout)) := by
  have refused (context : Context) (cause : Cause) :
      (rest shared context (.error (refusal cause))).stage.Decided := ⟨false, _, .refused _, rfl⟩
  intro stretch
  unfold stretch start
  simp only [named, Option.bind_some, stock, Handler.lookup_stock, Handler.stock?]
  unfold login
  dsimp only
  split
  · exact .inl (refused _ _)
  · split
    · exact .inl (refused _ _)
    · split
      · exact .inl (refused _ _)
      · exact (wantToken_login rfl orderly free).imp_right fun waits => ⟨_, waits⟩

/-- What a login that waits for a token may get decides it, or lets it in. -/
theorem resume?_login (aim : wish.purpose = .login) {reply : Reply} {stretch : Stretch}
    (resumes : resume? setup caller message (.token wish) shared context reply = some stretch) :
    stretch.stage.Decided ∨
      stretch.stage = .waiting (.token wish) ∧ shared.logins.mayEnter caller = true := by
  cases resumption_of_resume? resumes with
  | admitted _ turn => exact (enter_stage aim _).imp_right fun waits => ⟨waits, turn⟩
  | login result => exact .inl (granted_decided aim result _)

end Dispatch

end SelfCheck
