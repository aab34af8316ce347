import SelfCheck.Proofs.Dispatch.Queue
import SelfCheck.Proofs.Gateway.Tokens
import SelfCheck.Proofs.Session.Lines

/-! Which logins are answered in time.

A login gives up before its request does. So whoever begins its login as it comes gets the answer of
a login, whatever the platform does. Whoever stands behind another caller begins its own login
later, but its request does not get more time for that.
-/

set_option autoImplicit false

namespace SelfCheck

/-! The answer to a login. -/

/-- The body of the answer to a login. -/
def loginBody (ok : Bool) : String := if ok then "941" else "940"

/-- An answer in the form of a login's, whether the login has succeeded or not. -/
def Episode.AnswersLogin (setup : Setup) (message : Message) (episode : Episode) : Prop :=
  ∃ ok, episode.answer? setup =
    some (Turn.answerBytes episode.after.settings message (loginBody ok))

/-- The login of an episode waits, and another caller wanted a token of its account as it came. -/
def Episode.Behind (episode : Episode) : Prop :=
  ∃ message wish deadline,
    episode.after.session.activity = .handling message (.token wish) deadline ∧
      episode.before.shared.logins.queue wish.account ≠ []

/-- Three quarters are less than the whole, if that is long enough for timers to tell. -/
theorem Setup.loginTimeout_lt {setup : Setup} (long : 4 ≤ setup.requestTimeout) :
    setup.loginTimeout < setup.requestTimeout := by
  unfold loginTimeout
  omega

namespace Deed

variable {stretch : Stretch} {result : Except Failure Json}

theorem outcome?_dispatched (frame : List UInt8) (message : Message)
    (done : stretch.stage = .finished result) :
    (dispatched frame message stretch).outcome? =
      some (message, Dispatch.outcome message result) := by
  simp [outcome?, Stretch.result?_eq_some.mpr done]

theorem outcome?_resumed (message : Message) (reply : Reply)
    (done : stretch.stage = .finished result) :
    (resumed message reply stretch).outcome? =
      some (message, Dispatch.outcome message result) := by
  simp [outcome?, Stretch.result?_eq_some.mpr done]

theorem outcome?_of_waiting {deed : Deed} {wait : Wait} (handles : deed.stretch? = some stretch)
    (waits : stretch.stage = .waiting wait) : deed.outcome? = none := by
  have unfinished : stretch.result? = none := by simp [Stretch.result?, waits]
  cases deed with
  | dispatched | resumed =>
    cases handles
    simp [outcome?, unfinished]
  | _ => cases handles

end Deed

namespace Turn

variable {setup : Setup} {caller : Nat} {turn after : Turn} {deed : Deed} {message : Message}

theorem rendered_login (named : message.command = some .login) {ok : Bool}
    {result : Except Failure Json} (decided : LoginResult ok result) :
    rendered .bundled message (Dispatch.outcome message result) = .ok (loginBody ok) := by
  cases decided with
  | accepted =>
    simp only [Dispatch.outcome, named, rendered]
    rfl
  | refused cause =>
    simp only [Dispatch.outcome, named, rendered, Dispatch.refusal]
    rfl

theorem delimited_loginBody (settings : WireSettings) (ok : Bool) :
    delimited settings (loginBody ok) = loginBody ok := by
  cases ok <;> rfl

/-- A login that is decided gets its answer. -/
theorem answersLogin (bundled : setup.templates = .bundled) (named : message.command = some .login)
    {result : Except Failure Json} {ok : Bool} (decided : LoginResult ok result)
    (done : deed.outcome? = some (message, Dispatch.outcome message result)) :
    Episode.AnswersLogin setup message ⟨turn, deed, after⟩ := by
  refine ⟨ok, ?_⟩
  rw [answer?_eq done rfl, response, bundled, rendered_login named decided]
  simp only [Except.toOption, Option.getD_some]
  rw [delimited_loginBody]

/-- No login is refused before it comes to its handler. -/
theorem Move.not_login {frame : List UInt8} {cause : Cause}
    (move : Move setup caller turn (.refused frame message cause) after) :
    message.command ≠ some .login := by
  intro login
  cases move with
  | refused _ _ _ _ gate => simp [login, refusal?, Command.isSessionControl] at gate

/-! What a move does in time. -/

theorem proceed_activity {stretch : Stretch} {wait : Wait} (waits : stretch.stage = .waiting wait)
    (turn : Turn) (message : Message) (deadline : Nat) :
    (turn.proceed setup message deadline stretch).session.activity =
      .handling message wait deadline := by
  rw [proceed_of_waiting waits]

theorem Move.paced (shares : turn.session.Shares turn.shared.logins caller)
    (move : Move setup caller turn deed after) :
    turn.shared.Paced setup caller after.shared := by
  rw [move.shared_eq]
  cases move with
  | dispatched reading => exact Dispatch.start_paced (shares.without reading)
  | resumed _ resumes => exact Dispatch.resume?_paced resumes
  | late =>
    have move : Logins.Move turn.shared.logins turn.shared.now _ _ := .dropped caller
    exact ⟨rfl, move.own rfl, fun share member _ _ => .inl (Logins.mem_leave member).1⟩
  | _ => exact .refl _ _ _

/-- A session in the middle of a request has just begun with it, or was in its middle before. -/
theorem Move.timed (move : Move setup caller turn deed after) {wait : Wait} {deadline : Nat}
    (busy : after.session.activity = .handling message wait deadline) :
    deadline = turn.shared.clock + setup.requestTimeout ∨
      ∃ before, turn.session.activity = .handling message before deadline := by
  rcases move.waits busy with ⟨stretch, done, -, waits, -⟩ | ⟨-, before, -⟩
  · cases move with
    | dispatched =>
      cases done
      rw [proceed_activity waits] at busy
      cases busy
      exact .inl rfl
    | resumed before =>
      cases done
      rw [proceed_activity waits] at busy
      cases busy
      exact .inr ⟨_, before⟩
    | _ => cases done
  · exact .inr ⟨_, before⟩

/-- A session in the middle of a request goes on with it, does nothing that matters, or gives up. -/
theorem Move.busy (move : Move setup caller turn deed after) {wait : Wait} {deadline : Nat}
    (busy : turn.session.activity = .handling message wait deadline) :
    (deed = .quiet ∧ after.session.activity = turn.session.activity) ∨
      (∃ reply stretch, deed = .resumed message reply stretch ∧
        Dispatch.resume? setup caller message wait turn.shared turn.session.context reply =
          some stretch ∧ after = turn.proceed setup message deadline stretch) ∨
      (deed = .late message ∧ deadline ≤ turn.shared.clock) := by
  have idle (reading : turn.session.isReading = true) : False := by
    simp [Session.isReading, busy] at reading
  cases move with
  | resumed busy' resumes =>
    cases busy.symm.trans busy'
    exact .inr (.inl ⟨_, _, rfl, resumes, rfl⟩)
  | late busy' expired =>
    cases busy.symm.trans busy'
    exact .inr (.inr ⟨rfl, expired⟩)
  | stored => exact .inl ⟨rfl, rfl⟩
  | severed => exact .inl ⟨rfl, rfl⟩
  | malformed reading => exact (idle reading).elim
  | asked reading => exact (idle reading).elim
  | repeated reading => exact (idle reading).elim
  | misplaced reading => exact (idle reading).elim
  | refused reading => exact (idle reading).elim
  | dispatched reading => exact (idle reading).elim
  | overlong reading => exact (idle reading).elim
  | ended reading => exact (idle reading).elim
  | waited reading => exact (idle reading).elim

end Turn

namespace Gateway

variable {setup : Setup} {policy : Policy} {capacity : Nat} {now : Time.Moment}
  {origin gateway before after : Gateway} {past since : List Occurrence} {number : Nat}
  {session : Session} {deed : Deed} {turn : Turn} {request answer : Episode} {message : Message}

theorem accept_shared (gateway : Gateway) (number : Nat) (turn : Turn) :
    (gateway.accept number turn).1.shared = turn.shared := rfl

/-! What happens outside of the sessions. -/

/-- What an event that happens to no session of a gateway makes of it. -/
structure Outside (before after : Gateway) : Prop where
  kept : ∀ number session, before.sessions.lookup number = some session →
    after.sessions.lookup number = some session
  found : ∀ number session, after.sessions.lookup number = some session →
    before.sessions.lookup number = some session ∨ session.pending? = none
  logins : after.shared.logins = before.shared.logins ∨
    ∃ account, after.shared.logins = before.shared.logins.invalidate account
  clock : after.shared.clock = before.shared.clock ∨
    ∀ limit ∈ before.pendingDeadlines, after.shared.clock ≤ limit

theorem outside_of_eq (sessions : after.sessions = before.sessions)
    (logins : after.shared.logins = before.shared.logins ∨
      ∃ account, after.shared.logins = before.shared.logins.invalidate account)
    (clock : after.shared.clock = before.shared.clock ∨
      ∀ limit ∈ before.pendingDeadlines, after.shared.clock ≤ limit) : Outside before after where
  kept := fun number session known => by rw [sessions, known]
  found := fun number session known => .inl (by rw [← sessions, known])
  logins := logins
  clock := clock

/-- Who connects gets a number of its own, and has no request yet. -/
theorem Numbered.outside_connected (numbered : before.Numbered) (name : String)
    (peer : Net.SocketAddress) (port : Nat) :
    Outside before (before.accept before.sessions.length
      (Session.start before.setup before.shared name peer port)).1 := by
  have shared := start_shared before.setup before.shared name peer port
  refine ⟨?_, ?_, .inl (congrArg Shared.logins shared), .inl (congrArg Shared.clock shared)⟩
  · intro number session known
    rw [lookup_accept_of_ne (Nat.ne_of_lt (numbered.lt_of_lookup known)), known]
  · intro number session known
    by_cases new : number = before.sessions.length
    · subst new
      rw [lookup_accept_self] at known
      cases known
      exact .inr (Session.start_session ..).2.1
    · rw [lookup_accept_of_ne new] at known
      exact .inl known

theorem Numbered.outside (numbered : before.Numbered) {event : Event}
    {effects : List (Nat × Effect)} (kind : event.isSignal = false)
    (steps : before.step event = some (after, effects)) : Outside before after := by
  cases event with
  | signal number signal => cases kind
  | connected name peer port =>
    cases steps
    exact numbered.outside_connected name peer port
  | policyReplaced policy =>
    cases steps
    exact outside_of_eq rfl (.inl rfl) (.inl rfl)
  | invalidated account =>
    cases steps
    exact outside_of_eq rfl (.inr ⟨account, rfl⟩) (.inl rfl)
  | wallClockSet now =>
    cases steps
    exact outside_of_eq rfl (.inl rfl) (.inl rfl)
  | elapsed milliseconds =>
    simp only [step, Option.ite_none_right_eq_some, Option.some.injEq] at steps
    obtain ⟨spared, same⟩ := steps
    cases same
    exact outside_of_eq rfl (.inl rfl) (.inr (by simpa using spared))

theorem Outside.shares (outside : Outside before after) :
    after.shared.logins.shares = before.shared.logins.shares := by
  rcases outside.logins with same | ⟨account, same⟩
  · rw [same]
  · rw [same]
    rfl

/-- Whatever a gateway does, its logins take a course. -/
theorem Course.logins (stock : setup.handlers = Handler.stock)
    (course : Course (.initial setup policy capacity now) past gateway) :
    ∃ record, Logins.Course (.empty capacity) record gateway.shared.logins := by
  induction course with
  | nil => exact ⟨[], .nil⟩
  | @event past before after event effects course kind steps ih =>
    obtain ⟨record, course'⟩ := ih
    have sound := course.sound stock (.initial setup policy capacity now)
    rcases (sound.numbered.outside kind steps).logins with same | ⟨account, same⟩
    · rw [same]
      exact ⟨record, course'⟩
    · rw [same]
      have move : Logins.Move before.shared.logins before.shared.now _ _ := .invalidated account
      exact ⟨_, course'.more move⟩
  | move course known move ih =>
    obtain ⟨record, course'⟩ := ih
    have sound := course.sound stock (.initial setup policy capacity now)
    obtain ⟨later, onward, -⟩ := (move.paced (sound.sharesOf known)).taken
    exact ⟨later ++ record, course'.append onward⟩

theorem Course.orderly (stock : setup.handlers = Handler.stock)
    (course : Course (.initial setup policy capacity now) past gateway) :
    gateway.shared.logins.Orderly := by
  obtain ⟨record, course'⟩ := course.logins stock
  exact course'.orderly (.empty _)

/-! Time does not pass a deadline. -/

structure Timely (gateway : Gateway) : Prop where
  requests : ∀ number session message wait deadline,
    gateway.sessions.lookup number = some session →
    session.activity = .handling message wait deadline → gateway.shared.clock ≤ deadline
  logins : ∀ share ∈ gateway.shared.logins.shares, ∀ deadline, share.deadline = some deadline →
    gateway.shared.clock ≤ deadline

theorem Timely.outside (timely : before.Timely) (outside : Outside before after) :
    after.Timely := by
  constructor
  · intro number session message wait deadline known busy
    rcases outside.found number session known with old | idle
    · rcases outside.clock with same | spared
      · rw [same]
        exact timely.requests _ _ _ _ _ old busy
      · apply spared
        obtain ⟨front, back, whole, -⟩ := List.lookup_eq_some_iff.mp old
        refine List.mem_append_left _ (List.mem_flatMap.mpr ⟨(number, session), ?_, ?_⟩)
        · rw [whole]
          simp
        · simp [deadlines, busy]
    · rw [Session.pending?_of_handling busy] at idle
      cases idle
  · intro share member deadline begun
    rw [outside.shares] at member
    rcases outside.clock with same | spared
    · rw [same]
      exact timely.logins share member deadline begun
    · exact spared _ (List.mem_append_right _ (List.mem_filterMap.mpr ⟨share, member, begun⟩))

theorem Timely.move (timely : gateway.Timely)
    (known : gateway.sessions.lookup number = some session)
    (shares : session.Shares gateway.shared.logins number)
    (move : Turn.Move gateway.setup number (session.turn gateway.shared) deed turn) :
    (gateway.accept number turn).1.Timely := by
  have paced := move.paced shares
  constructor
  · intro other session' message wait deadline found busy
    change turn.shared.clock ≤ deadline
    rw [paced.clock]
    by_cases same : other = number
    · subst same
      rw [lookup_accept_self] at found
      cases found
      rcases move.timed busy with fresh | ⟨wait', before⟩
      · rw [fresh]
        exact Nat.le_add_right _ _
      · exact timely.requests _ _ _ _ _ known before
    · rw [lookup_accept_of_ne same] at found
      exact timely.requests _ _ _ _ _ found busy
  · intro share member deadline begun
    change turn.shared.clock ≤ deadline
    rw [paced.clock]
    rcases paced.limits share member deadline begun with old | rfl
    · exact timely.logins share old deadline begun
    · exact Nat.le_add_right _ _

theorem Course.timely (stock : setup.handlers = Handler.stock)
    (course : Course (.initial setup policy capacity now) past gateway) : gateway.Timely := by
  induction course with
  | nil => exact ⟨by simp [initial], by simp [initial, Logins.empty]⟩
  | event course kind steps ih =>
    have sound := course.sound stock (.initial setup policy capacity now)
    exact ih.outside (sound.numbered.outside kind steps)
  | move course known move ih =>
    have sound := course.sound stock (.initial setup policy capacity now)
    exact ih.move known (sound.sharesOf known) move

/-! What becomes of a login. -/

/-- A session has given no answer in what is on record. -/
def Silent (since : List Occurrence) (number : Nat) : Prop :=
  ∀ episode, .move number episode ∈ since → episode.deed.outcome? = none

/-- The first answer that a session has given in what is on record, and the request it is to. -/
def FirstAnswer (since : List Occurrence) (number : Nat) (message : Message) (answer : Episode) :
    Prop :=
  ∃ later earlier, since = later ++ .move number answer :: earlier ∧ Silent earlier number ∧
    answer.deed.outcome?.map Prod.fst = some message

/-- What has become of a login since a session has handed it to its handler. -/
inductive Fate (setup : Setup) (number : Nat) (request : Episode) (message : Message)
    (since : List Occurrence) (gateway : Gateway) : Prop where
  | answered {answer : Episode} :
      FirstAnswer since number message answer → answer.AnswersLogin setup message →
      Fate setup number request message since gateway
  | late {answer : Episode} :
      FirstAnswer since number message answer → answer.deed = .late message → request.Behind →
      answer.before.shared.clock = request.before.shared.clock + setup.requestTimeout →
      Fate setup number request message since gateway
  /-- It waits, behind another caller or for a login of its own that it began as it came. -/
  | waiting {session : Session} {wish : TokenWish} :
      gateway.sessions.lookup number = some session →
      session.activity = .handling message (.token wish)
        (request.before.shared.clock + setup.requestTimeout) →
      Silent since number →
      (request.Behind ∨ ∃ share ∈ gateway.shared.logins.shares, share.caller = number ∧
        share.deadline = some (request.before.shared.clock + setup.loginTimeout)) →
      Fate setup number request message since gateway

theorem Silent.more (silent : Silent since number) {occurrence : Occurrence}
    (mute : ∀ episode, occurrence = .move number episode → episode.deed.outcome? = none) :
    Silent (occurrence :: since) number := by
  intro episode member
  rcases List.mem_cons.mp member with same | old
  · exact mute episode same.symm
  · exact silent episode old

theorem FirstAnswer.more (first : FirstAnswer since number message answer)
    (occurrence : Occurrence) : FirstAnswer (occurrence :: since) number message answer := by
  obtain ⟨later, earlier, rfl, silent, answers⟩ := first
  exact ⟨occurrence :: later, earlier, rfl, silent, answers⟩

theorem Silent.first (silent : Silent since number) {outcome : Outcome}
    (answers : answer.deed.outcome? = some (message, outcome)) :
    FirstAnswer (.move number answer :: since) number message answer :=
  ⟨[], since, rfl, silent, by rw [answers]; rfl⟩

/-- What others do changes nothing about a login. -/
theorem Fate.others (fate : Fate setup number request message since before)
    {occurrence : Occurrence} (strange : ∀ episode, occurrence ≠ .move number episode)
    (kept : ∀ session, before.sessions.lookup number = some session →
      after.sessions.lookup number = some session)
    (shares : ∀ share ∈ before.shared.logins.shares, share.caller = number →
      share ∈ after.shared.logins.shares) :
    Fate setup number request message (occurrence :: since) after := by
  cases fate with
  | answered first form => exact .answered (first.more occurrence) form
  | late first late behind time => exact .late (first.more occurrence) late behind time
  | waiting known busy silent reason =>
    refine .waiting (kept _ known) busy ?_ ?_
    · exact silent.more fun episode same => (strange episode same).elim
    · rcases reason with behind | ⟨share, held, mine, begun⟩
      · exact .inl behind
      · exact .inr ⟨share, shares share held mine, mine, begun⟩

/-- A login begins with an answer, or waits. -/
theorem Fate.begin (stock : gateway.setup.handlers = Handler.stock)
    (bundled : gateway.setup.templates = .bundled) (orderly : gateway.shared.logins.Orderly)
    (shares : session.Shares gateway.shared.logins number)
    (move : Turn.Move gateway.setup number (session.turn gateway.shared) deed turn)
    {frame : List UInt8} {stretch : Stretch} (handed : deed = .dispatched frame message stretch)
    (named : message.command = some .login) :
    Fate gateway.setup number ⟨session.turn gateway.shared, deed, turn⟩ message
      [.move number ⟨session.turn gateway.shared, deed, turn⟩] (gateway.accept number turn).1 := by
  have silent : Silent [] number := by simp [Silent]
  cases move with
  | dispatched reading =>
    cases handed
    have stands : (Dispatch.start gateway.setup number message gateway.shared
        session.context).stage.Decided ∨ _ :=
      Dispatch.start_login stock named orderly (shares.without reading)
    rcases stands with ⟨ok, result, decided, done⟩ | ⟨wish, waits, prompt⟩
    · have answers := Deed.outcome?_dispatched frame message done
      exact .answered (silent.first answers) (Turn.answersLogin bundled named decided answers)
    · have busy : (Turn.proceed gateway.setup (session.turn gateway.shared) message _
          _).session.activity = .handling message (.token wish)
            (gateway.shared.clock + gateway.setup.requestTimeout) :=
        Turn.proceed_activity waits _ _ _
      refine .waiting (lookup_accept_self _ _ _) busy (silent.more ?_) ?_
      · rintro _ ⟨⟩
        exact Deed.outcome?_of_waiting rfl waits
      · by_cases alone : gateway.shared.logins.queue wish.account = []
        · obtain ⟨share, held, mine, begun⟩ := prompt alone
          refine .inr ⟨share, ?_, mine, begun⟩
          rw [accept_shared, Turn.proceed_shared]
          exact held
        · exact .inl ⟨message, wish, _, busy, alone⟩
  | _ => cases handed

/-- A login that waits is decided, goes on waiting, or its request is over. -/
theorem Fate.move (bundled : gateway.setup.templates = .bundled)
    (long : 4 ≤ gateway.setup.requestTimeout) (sound : Sound past gateway)
    (orderly : gateway.shared.logins.Orderly)
    (timely : gateway.Timely) (named : message.command = some .login)
    (known : gateway.sessions.lookup number = some session)
    (move : Turn.Move gateway.setup number (session.turn gateway.shared) deed turn)
    (fate : Fate gateway.setup number request message since gateway) :
    Fate gateway.setup number request message
      (.move number ⟨session.turn gateway.shared, deed, turn⟩ :: since)
      (gateway.accept number turn).1 := by
  cases fate with
  | answered first form => exact .answered (first.more _) form
  | late first late behind time => exact .late (first.more _) late behind time
  | @waiting session' wish known' busy silent reason =>
    rw [known] at known'
    cases known'
    have self := lookup_accept_self gateway number turn
    rcases move.busy busy with ⟨rfl, same⟩ | ⟨reply, stretch, rfl, resumes, rfl⟩ | ⟨rfl, expired⟩
    · refine .waiting self (same.trans busy) (silent.more ?_) ?_
      · rintro _ ⟨⟩
        rfl
      · have shared : turn.shared = gateway.shared := move.shared_eq
        rw [accept_shared, shared]
        exact reason
    · have aim := Dispatch.purpose_of_awaits
        ((sound.sessions number session known).waiting _ _ _ busy) named
      rcases Dispatch.resume?_login aim resumes with ⟨ok, result, decided, done⟩ | ⟨waits, turn⟩
      · have answers := Deed.outcome?_resumed message reply done
        exact .answered (silent.first answers) (Turn.answersLogin bundled named decided answers)
      · rcases reason with behind | ⟨share, held, mine, begun⟩
        · refine .waiting self (Turn.proceed_activity waits _ _ _) (silent.more ?_) (.inl behind)
          rintro _ ⟨⟩
          exact Deed.outcome?_of_waiting rfl waits
        -- Whoever has begun its own login does not stand at the gate any more.
        · rw [← mine] at turn
          obtain ⟨unbegun, -⟩ := (orderly.mayEnter_iff held).mp turn
          rw [unbegun] at begun
          cases begun
    · have due := timely.requests _ _ _ _ _ known busy
      rcases reason with behind | ⟨share, held, mine, begun⟩
      · exact .late (silent.first rfl) rfl behind (Nat.le_antisymm due expired)
      · have early := timely.logins share held _ begun
        have less := Setup.loginTimeout_lt long
        have expired : request.before.shared.clock + gateway.setup.requestTimeout ≤
          gateway.shared.clock := expired
        omega

/-- The login of a move on record has been answered since, or waits. -/
theorem Course.fate (stock : setup.handlers = Handler.stock) (bundled : setup.templates = .bundled)
    (long : 4 ≤ setup.requestTimeout) {later earlier : List Occurrence} {frame : List UInt8}
    {stretch : Stretch}
    (course : Course (.initial setup policy capacity now)
      (later ++ .move number request :: earlier) gateway)
    (handed : request.deed = .dispatched frame message stretch)
    (named : message.command = some .login) :
    Fate setup number request message (later ++ [.move number request]) gateway := by
  generalize whole : later ++ .move number request :: earlier = past at course
  induction course generalizing later with
  | nil => simp at whole
  | @event past before after event effects course kind steps ih =>
    cases later with
    | nil => cases whole
    | cons last later =>
      simp only [List.cons_append, List.cons.injEq] at whole
      obtain ⟨rfl, whole⟩ := whole
      have sound := course.sound stock (.initial setup policy capacity now)
      have outside := sound.numbered.outside kind steps
      refine (ih whole).others (by simp) (fun session => outside.kept number session) ?_
      intro share held _
      rwa [outside.shares]
  | @move past gateway other session deed turn course known move ih =>
    have sound := course.sound stock (.initial setup policy capacity now)
    have orderly := course.orderly stock
    have same : gateway.setup = setup := course.setup_eq
    have shares := sound.sharesOf known
    cases later with
    | nil =>
      simp only [List.nil_append, List.cons.injEq, Occurrence.move.injEq] at whole
      obtain ⟨⟨rfl, rfl⟩, rfl⟩ := whole
      rw [← same] at stock bundled ⊢
      exact .begin stock bundled orderly shares move handed named
    | cons last later =>
      simp only [List.cons_append, List.cons.injEq] at whole
      obtain ⟨rfl, whole⟩ := whole
      have fate := ih whole
      by_cases own : other = number
      · subst own
        have timely := course.timely stock
        rw [← same] at bundled long fate ⊢
        exact fate.move bundled long sound orderly timely named known move
      · refine fate.others ?_ ?_ ?_
        · rintro _ ⟨⟩
          exact own rfl
        · intro session' found
          rwa [lookup_accept_of_ne (Ne.symm own)]
        · intro share held mine
          refine ((move.paced shares).taken.mem_others ?_).mpr held
          rw [mine]
          exact Ne.symm own

/-- A login whose time is over can be told so. -/
theorem can_time_out (orderly : gateway.shared.logins.Orderly)
    (known : gateway.sessions.lookup number = some session) {wish : TokenWish} {deadline : Nat}
    (busy : session.activity = .handling message (.token wish) deadline) {share : Logins.Share}
    (held : share ∈ gateway.shared.logins.shares) (mine : share.caller = number) {limit : Nat}
    (begun : share.deadline = some limit) (due : limit ≤ gateway.shared.clock) :
    (gateway.step (.signal number .loginTimeout)).isSome = true := by
  have found := orderly.share?_eq held
  rw [mine] at found
  have late : Session.loginIsLate gateway.shared number = true := by
    simp [Session.loginIsLate, found, begun, due]
  simp [step, known, Session.step?, late, Session.resume?, busy, Dispatch.resume?, found, begun]

/-- Every new login is handed to its handler. The first that the session answers from then on is
this login, and the answer is that of a login, sent by the time that a login has; until then it
waits, and is told when the time of its login is over. But where another caller wanted a token of
the same account as the login came, the time of the request may be over first. -/
theorem login_answered_in_time (stock : setup.handlers = Handler.stock)
    (bundled : setup.templates = .bundled) (long : 4 ≤ setup.requestTimeout)
    (course : Course (.initial setup policy capacity now) past gateway) :
    (∀ number episode frame message cause, .move number episode ∈ past →
      episode.deed = .refused frame message cause → message.command ≠ some .login) ∧
    (∀ later number request earlier frame message stretch,
      past = later ++ .move number request :: earlier →
      request.deed = .dispatched frame message stretch → message.command = some .login →
      let start := request.before.shared.clock
      (∃ answer, FirstAnswer (later ++ [.move number request]) number message answer ∧
        (answer.AnswersLogin setup message ∨
          request.Behind ∧ answer.deed = .late message ∧
            answer.before.shared.clock = start + setup.requestTimeout)) ∨
      ∃ session wish, gateway.sessions.lookup number = some session ∧
        session.activity = .handling message (.token wish) (start + setup.requestTimeout) ∧
        gateway.shared.clock ≤ start + setup.requestTimeout ∧
        (request.Behind ∨ gateway.shared.clock ≤ start + setup.loginTimeout ∧
          (gateway.shared.clock = start + setup.loginTimeout →
            (gateway.step (.signal number .loginTimeout)).isSome = true))) := by
  constructor
  · intro number episode frame message cause member refused login
    obtain ⟨later, earlier, rfl⟩ := List.append_of_mem member
    obtain ⟨before, session, -, -, -, move⟩ := course.split
    rw [refused] at move
    exact move.not_login login
  · rintro later number request earlier frame message stretch rfl handed login start
    have timely := course.timely stock
    cases course.fate stock bundled long handed login with
    | answered first form => exact .inl ⟨_, first, .inl form⟩
    | late first late behind time => exact .inl ⟨_, first, .inr ⟨behind, late, time⟩⟩
    | waiting known busy silent reason =>
      refine .inr ⟨_, _, known, busy, timely.requests _ _ _ _ _ known busy, ?_⟩
      refine reason.imp_right fun ⟨share, held, mine, begun⟩ => ?_
      refine ⟨timely.logins share held _ begun, fun due => ?_⟩
      exact can_time_out (course.orderly stock) known busy held mine begun (Nat.le_of_eq due.symm)

/-! A desk where the platform never answers a login. -/

def desk : Gateway := .initial Desk.setup (Desk.policy false []) 8 1000

/-- Two terminals log in as the same user. The second begins its login when the first has given its
own up. -/
def crowd : List Event :=
  [.connected "s" Desk.terminal 6443, .connected "t" Desk.terminal 6443,
    .signal 0 (.received (Desk.line "9300CNu|COp|")),
    .signal 1 (.received (Desk.line "9300CNu|COp|")),
    .elapsed 11250, .signal 0 .loginTimeout, .signal 1 (.reply .admitted),
    .elapsed 3750, .signal 1 .deadline]

/-- The desk with one terminal. -/
def manned : Gateway :=
  (desk.accept 0 (Session.start Desk.setup desk.shared "s" Desk.terminal 6443)).1

/-- The terminal logs in. -/
def loggingIn : Episode :=
  let turn := (Desk.session (Desk.policy false [])).turn manned.shared
  let stretch := Dispatch.start Desk.setup 0 (Desk.login "u" "p" none none) turn.shared
    turn.session.context
  { before := turn
    deed := .dispatched (Text.bytesOf "9300CNu|COp|") (Desk.login "u" "p" none none) stretch
    after := turn.proceed Desk.setup (Desk.login "u" "p" none none) 15000 stretch }

/-- The time of the login has passed. -/
def overdue : Gateway :=
  let gateway := (manned.accept 0 loggingIn.after).1
  { gateway with shared := { gateway.shared with clock := 11250 } }

/-- The login is given up. -/
def givingUp : Episode :=
  let turn := loggingIn.after.session.turn overdue.shared
  let stretch := Dispatch.loginEnded (Desk.login "u" "p" none none)
    ⟨.login, Desk.account, "p"⟩ ⟨0, Desk.account, 0, some 11250⟩ (.error .timeout) turn.shared
    turn.session.context
  { before := turn
    deed := .resumed (Desk.login "u" "p" none none) (.login (.error .timeout)) stretch
    after := turn.proceed Desk.setup (Desk.login "u" "p" none none) 15000 stretch }

theorem login_answered_in_time_alone :
    ∃ answer, FirstAnswer [.move 0 givingUp, .event (.elapsed 11250) [], .move 0 loggingIn] 0
        (Desk.login "u" "p" none none) answer ∧
      answer.AnswersLogin Desk.setup (Desk.login "u" "p" none none) := by
  have comes : Course desk [.event (.connected "s" Desk.terminal 6443) _] manned :=
    .event .nil rfl rfl
  have asks : Course desk (.move 0 loggingIn :: _) (manned.accept 0 loggingIn.after).1 :=
    .move comes rfl (.dispatched (by decide +kernel) (ok_of_toOption (by decide +kernel))
      (by decide) (by decide +kernel) (by decide +kernel))
  have waits : Course desk (.event (.elapsed 11250) [] :: _) overdue := .event asks rfl rfl
  have ends : Course desk (.move 0 givingUp :: _) (overdue.accept 0 givingUp.after).1 :=
    .move waits rfl (.resumed rfl rfl)
  obtain ⟨-, all⟩ := login_answered_in_time rfl rfl (by decide) ends
  rcases all [.move 0 givingUp, .event (.elapsed 11250) []] 0 loggingIn _ _ _ _ rfl rfl rfl with
    ⟨answer, first, form | ⟨⟨_, _, _, -, busy⟩, -⟩⟩ | ⟨session, wish, known, busy, -⟩
  · exact ⟨answer, first, form⟩
  · exact (busy rfl).elim
  · cases known
    cases busy

/-- The second of two terminals gets no answer of a login: its request is over while its own login
is still going on. -/
theorem login_cut_short :
    ∃ gateway effects, Run desk crowd gateway effects ∧
      (effects.filter fun effect => effect.1 = 1 && effect.2.isCall).map (·.2.password?) =
        [some "p"] ∧
      (effects.filter (·.1 = 0)).filterMap (·.2.written?) = [Desk.line "940"] ∧
      (effects.filter (·.1 = 1)).filterMap (·.2.written?) =
        [Desk.line "94AFThere was a problem handling the request|"] := by
  have works : (desk.perform? crowd).any (fun performed =>
      (performed.2.filter fun effect => effect.1 = 1 && effect.2.isCall).map (·.2.password?) =
        [some "p"] &&
      (performed.2.filter (·.1 = 0)).filterMap (·.2.written?) = [Desk.line "940"] &&
      (performed.2.filter (·.1 = 1)).filterMap (·.2.written?) =
        [Desk.line "94AFThere was a problem handling the request|"]) = true := by decide +kernel
  obtain ⟨⟨gateway, effects⟩, performs, seen⟩ := (Option.any_eq_true _ _).mp works
  rw [Bool.and_eq_true, Bool.and_eq_true, decide_eq_true_eq, decide_eq_true_eq,
    decide_eq_true_eq] at seen
  exact ⟨gateway, effects, Run.perform? .none performs, seen.1.1, seen.1.2, seen.2⟩

end Gateway

end SelfCheck
