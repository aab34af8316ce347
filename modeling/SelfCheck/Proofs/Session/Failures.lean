import SelfCheck.Proofs.Dispatch.Failures
import SelfCheck.Proofs.Session.Accounts

/-! Failures look alike.

Whatever a request that the policy can switch off fails for, the terminal reads the same bytes. They
are made of the request and of the wire settings alone, so two sessions that have nothing else in
common write the same, and what has gone wrong leaves no trace in the session that wrote them.
-/

set_option autoImplicit false

namespace SelfCheck

theorem Effect.written_append (earlier later : List Effect) :
    written (earlier ++ later) = written earlier ++ written later := by
  simp [written]

namespace Turn

variable {setup : Setup} {caller : Nat} {turn after : Turn} {deed : Deed} {message : Message}

/-- What a terminal reads about a request that has failed. -/
def trouble (setup : Setup) (settings : WireSettings) (message : Message) : List UInt8 :=
  let body := setup.templates.renderFailure message.command message.code Cause.troubleText
  answerBytes settings message (delimited settings (body.toOption.getD ""))

theorem trouble_bundled (bundled : setup.templates = Templates.bundled) (settings : WireSettings)
    (message : Message) :
    trouble setup settings message = answerBytes settings message (delimited settings
      (Templates.answerCode message.command message.code ++
        ("AF" ++ (Cause.troubleText ++ "|")))) := by
  unfold trouble
  rw [bundled, Templates.renderFailure_bundled_eq]
  rfl

theorem rendered_of_discreet {failure : Failure} (discreet : failure.Discreet)
    (templates : Templates) (message : Message) (command : Option Command) :
    rendered templates message (.failure command failure) =
      templates.renderFailure command message.code Cause.troubleText := by
  obtain ⟨words, bare⟩ := discreet
  cases command <;> simp [rendered, words, bare]

theorem response_of_discreet {failure : Failure} (discreet : failure.Discreet) (turn : Turn)
    (message : Message) :
    turn.response setup message (.failure message.command failure) =
      trouble setup turn.settings message := by
  unfold response
  rw [rendered_of_discreet discreet]
  rfl

theorem answer_written_eq (turn : Turn) (message : Message) (outcome : Outcome) :
    (turn.answer setup message outcome).written =
      turn.written ++
        if turn.session.brokenLink = none then [turn.response setup message outcome] else [] := by
  cases link : turn.session.brokenLink with
  | none =>
    have answered : Answered turn (turn.answer setup message outcome) message :=
      answer_answered turn link message outcome
    obtain ⟨bytes, wrote, kept⟩ := answered.kept
    rw [answer_lastAnswer] at kept
    cases kept
    rw [wrote, if_pos rfl]
  | some text =>
    unfold answer write
    simp [link, Session.isReading, finish, count, written, answerTallies_unwritten, Effect.written?]

end Turn

/-- How a session stands when it has answered a request that failed. -/
def Session.excused (setup : Setup) (session : Session) (message : Message) (clock : Nat) :
    Session :=
  { session with
    sequence := session.sequence.advance message
    lastAnswer := some (Turn.trouble setup session.context.settings message)
    activity := .reading clock }

/-- How a turn goes on when its request has failed: nothing is written but the trouble, and
nothing else is kept. -/
structure Turn.Excuses (setup : Setup) (turn : Turn) (message : Message) (after : Turn) : Prop where
  link : after.session.brokenLink = turn.session.brokenLink
  written : after.written = turn.written ++
    if turn.session.brokenLink = none then [Turn.trouble setup turn.settings message] else []
  kept : after.session.lastAnswer = some (Turn.trouble setup turn.settings message)
  session : turn.session.brokenLink = none →
    after.session = turn.session.excused setup message after.shared.clock

namespace Turn

variable {setup : Setup} {caller : Nat} {turn after : Turn} {deed : Deed} {message : Message}

theorem answer_excuses {failure : Failure} (discreet : failure.Discreet) (turn : Turn)
    (message : Message) :
    turn.Excuses setup message
      (turn.answer setup message (.failure message.command failure)) where
  link := answer_brokenLink turn message _
  written := by rw [answer_written_eq, response_of_discreet discreet]
  kept := by rw [answer_lastAnswer, response_of_discreet discreet]
  session := by
    intro linked
    rw [answer_linked linked, if_neg (by simp [endsSession, Outcome.isSuccess])]
    simp only [answered, response_of_discreet discreet]
    rfl

/-- What has been done to a turn before the answer does not matter, if nothing is written. -/
theorem Excuses.since {base : Turn} (excuses : base.Excuses setup message after)
    (same : base.session = turn.session) (unwritten : base.written = turn.written) :
    turn.Excuses setup message after := by
  obtain ⟨link, written, kept, session⟩ := excuses
  have settings : base.settings = turn.settings := congrArg (·.context.settings) same
  rw [unwritten, same, settings] at written
  rw [settings] at kept
  rw [same] at link session
  exact ⟨link, written, kept, session⟩

theorem Move.stretch_discreet (stock : setup.handlers = Handler.stock)
    (sound : turn.session.Sound) (move : Move setup caller turn deed after)
    (business : message.isBusiness = true) (asked : deed.request? = some message)
    {stretch : Stretch} (done : deed.stretch? = some stretch) : stretch.Discreet := by
  cases move with
  | dispatched =>
    cases done
    cases asked
    exact Dispatch.start_discreet stock business
  | resumed busy resumes =>
    cases done
    cases asked
    exact Dispatch.resume?_discreet business (sound.waiting _ _ _ busy) resumes
  | _ => cases done

theorem proceed_excuses {stretch : Stretch} {failure : Failure} (discreet : failure.Discreet)
    (fails : stretch.stage = .finished (.error failure))
    (unchanged : stretch.context = turn.session.context)
    (unwritten : stretch.effects.filterMap Effect.written? = []) (deadline : Nat) :
    turn.Excuses setup message (turn.proceed setup message deadline stretch) := by
  rw [proceed_of_finished fails]
  refine (answer_excuses discreet _ message).since ?_ ?_
  · rw [unchanged]
  · simp [written, unwritten]

theorem lateOutcome_eq {command : Command} (named : message.command = some command) :
    Session.lateOutcome message = .failure message.command { cause := .deadline command } := by
  simp [Session.lateOutcome, named]

/-- A move in which a business request fails, at the gate, in the hands of its handler or for lack
of time. -/
theorem Move.excuses (stock : setup.handlers = Handler.stock) (sound : turn.session.Sound)
    (move : Move setup caller turn deed after) (business : message.isBusiness = true)
    {told : Option Command} {failure : Failure}
    (fails : deed.outcome? = some (message, .failure told failure)) :
    turn.Excuses setup message after := by
  obtain ⟨command, named, -⟩ := Message.command_of_business business
  rcases Deed.failed named fails with
    ⟨frame, cause, rfl, rfl⟩ | ⟨stretch, done, asked, ends⟩ | ⟨rfl, rfl⟩
  · cases move with
    | refused _ _ _ _ gate =>
      obtain ⟨_, -, refuses⟩ := Option.bind_eq_some_iff.mp gate
      exact answer_excuses ⟨refusal?_words refuses, rfl⟩ turn message
  · have discreet := move.stretch_discreet stock sound business asked done failure ends
    have unchanged := (move.stretch_sound stock sound done asked).unchanged business
    have unwritten := move.unwritten done
    cases move with
    | dispatched | resumed =>
      cases done
      cases asked
      exact proceed_excuses discreet ends unchanged unwritten _
    | _ => cases done
  · cases move with
    | late =>
      unfold expire
      rw [lateOutcome_eq named]
      exact (answer_excuses ⟨rfl, rfl⟩ _ message).since rfl rfl

/-- A request that the gate turns away. -/
theorem handleFrame_excuses {frame : List UInt8}
    (new : turn.session.newRequest? frame = some message) {cause : Cause}
    (gate : message.command.bind (refusal? turn.shared.policy turn.session.context) = some cause) :
    turn.Excuses setup message (turn.handleFrame setup caller frame) := by
  obtain ⟨-, executed⟩ := handleFrame_of_newRequest? setup caller new
  obtain ⟨_, -, refuses⟩ := Option.bind_eq_some_iff.mp gate
  rw [executed, execute, gate]
  exact answer_excuses ⟨refusal?_words refuses, rfl⟩ turn message

/-! Between a request and its answer. -/

/-- The request that a session has in hand once it has taken up what comes. -/
theorem Move.occupied (move : Move setup caller turn deed after)
    (executes : deed.executed? = some message) :
    deed.executed?.toList ++ turn.session.pending?.toList = [message] := by
  have reading : turn.session.isReading = true := by
    cases move with
    | refused reading => exact reading
    | dispatched reading => exact reading
    | _ => cases executes
  rw [executes, Session.pending?_of_isReading reading]
  rfl

/-- A request in hand stays there, and nothing is written, until it is answered. -/
theorem Move.underway (move : Move setup caller turn deed after)
    (occupied : deed.executed?.toList ++ turn.session.pending?.toList = [message])
    (undecided : deed.outcome? = none) :
    after.session.pending? = some message ∧ after.written = turn.written := by
  have balance := move.balance
  rw [occupied, undecided] at balance
  refine ⟨by simpa using balance.symm, move.mute ?_ undecided⟩
  cases move with
  | malformed reading | asked reading | repeated reading | misplaced reading | overlong reading =>
    simp [Deed.executed?, Session.pending?_of_isReading reading] at occupied
  | _ => rfl

/-- A business request leaves the wire settings as they are. -/
theorem Move.settings_of_executed (stock : setup.handlers = Handler.stock)
    (sound : turn.session.Sound) (move : Move setup caller turn deed after)
    (business : message.isBusiness = true) (executes : deed.executed? = some message) :
    after.settings = turn.settings := by
  have keeps : after.settings = (deed.contextFrom turn.session.context).settings :=
    move.keeps.settings
  have fair (stretch : Stretch) (done : deed.stretch? = some stretch)
      (asked : deed.request? = some message) := move.stretch_sound stock sound done asked
  rw [keeps]
  cases move with
  | refused => rfl
  | dispatched =>
    cases executes
    exact congrArg Context.settings ((fair _ rfl rfl).unchanged business)
  | _ => cases executes

end Turn

/-- What a session does with one request, the latest first: the request comes in a frame and is
executed as a new one, and when it is answered at last it has failed. -/
structure Record.Fails (handling : List Episode) (frame : List UInt8) (message : Message) :
    Prop where
  comes : ∃ later first, handling = later ++ [first] ∧ first.deed.frame? = some frame ∧
    first.deed.executed? = some message
  fails : ∃ last earlier told failure, handling = last :: earlier ∧
    (∀ other ∈ earlier, other.deed.outcome? = none) ∧
    last.deed.outcome? = some (message, .failure told failure)

namespace Session

variable {setup : Setup} {caller : Nat} {origin session last : Session}
  {past handling : List Episode} {message : Message} {frame : List UInt8}

/-- A session that has not answered a business request yet. -/
structure Underway (origin session : Session) (message : Message) (past : List Episode) :
    Prop where
  pending : session.pending? = some message
  settings : session.context.settings = origin.context.settings
  unwritten : Effect.written (Record.effects past) = []

theorem Course.underway (stock : setup.handlers = Handler.stock) (sound : origin.Sound)
    (course : Course setup caller origin past session) {later : List Episode} {first : Episode}
    (opens : past = later ++ [first]) (executes : first.deed.executed? = some message)
    (business : message.isBusiness = true)
    (undecided : ∀ episode ∈ past, episode.deed.outcome? = none) :
    Underway origin session message past := by
  induction course generalizing later with
  | nil => simp at opens
  | @more past before shared deed turn course move ih =>
    obtain ⟨own, others⟩ := List.forall_mem_cons.mp undecided
    have unwritten (occupied : deed.executed?.toList ++ before.pending?.toList = [message]) :
        Effect.written turn.effects = [] := by
      have mute := (move.underway occupied own).2
      exact congrArg List.flatten mute
    cases later with
    | nil =>
      simp only [List.nil_append, List.cons.injEq] at opens
      obtain ⟨rfl, rfl⟩ := opens
      cases course
      have occupied := move.occupied executes
      refine ⟨(move.underway occupied own).1,
        move.settings_of_executed stock sound business executes, ?_⟩
      simpa [Record.effects] using unwritten occupied
    | cons latest later =>
      simp only [List.cons_append, List.cons.injEq] at opens
      obtain ⟨pending, settings, silent⟩ := ih opens.2 others
      have frameless : deed.frame? = none := move.frameless pending
      have occupied : deed.executed?.toList ++ before.pending?.toList = [message] := by
        rw [Deed.executed?_of_frameless frameless, pending]
        rfl
      refine ⟨(move.underway occupied own).1, (move.settings_eq frameless).trans settings, ?_⟩
      rw [Record.effects_cons, Effect.written_append, silent, unwritten occupied]
      rfl

/-- However a business request fails, and however long it takes, the session writes the same. -/
theorem Course.excuses (stock : setup.handlers = Handler.stock) (sound : origin.Sound)
    (course : Course setup caller origin handling last)
    (handled : Record.Fails handling frame message) (business : message.isBusiness = true) :
    Effect.written (Record.effects handling) =
        (if last.brokenLink = none then Turn.trouble setup origin.context.settings message
          else []) ∧
      last.lastAnswer = some (Turn.trouble setup origin.context.settings message) := by
  obtain ⟨⟨later, first, opens, -, executes⟩, ⟨latest, earlier, told, failure, ends, undecided,
    fails⟩⟩ := handled
  cases course with
  | nil => simp at ends
  | @more past before shared deed turn course move =>
    obtain ⟨rfl, rfl⟩ := List.cons.inj ends
    have calm : before.context.settings = origin.context.settings ∧
        Effect.written (Record.effects past) = [] := by
      cases later with
      | nil =>
        obtain ⟨-, rfl⟩ := List.cons.inj opens
        cases course
        exact ⟨rfl, rfl⟩
      | cons _ later =>
        obtain ⟨-, rest⟩ := List.cons.inj opens
        obtain ⟨-, settings, silent⟩ :=
          course.underway stock sound rest executes business undecided
        exact ⟨settings, silent⟩
    obtain ⟨settings, silent⟩ := calm
    obtain ⟨link, written, kept, -⟩ := move.excuses stock (course.sound stock sound) business fails
    have same : (before.turn shared).settings = origin.context.settings := settings
    rw [same] at written kept
    refine ⟨?_, kept⟩
    have wrote : Effect.written turn.effects = turn.written.flatten := rfl
    rw [Record.effects_cons, Effect.written_append, silent, wrote, written, link]
    split <;> simp [Session.turn, Turn.written]

/-- The request is the one in the frame as the session reads it. -/
theorem Course.read_of_fails (course : Course setup caller origin handling last)
    (handled : Record.Fails handling frame message) :
    Message.read frame (fieldDelimiter origin.context.settings) = .ok message := by
  obtain ⟨later, first, rfl, takes, executes⟩ := handled.comes
  obtain ⟨before, shared, reached, same, move⟩ := course.split
  cases reached
  rw [move.executed?_eq takes, same] at executes
  exact (newRequest?_eq_some executes).1

/-! What makes a request fail that a session waits with. -/

/-- What a session may be told at some moment that makes its request fail: the platform refuses the
login or the call that the request waits for, with any error, or it has not done in time. -/
inductive Failing (caller : Nat) (session : Session) (shared : Shared) : Signal → Prop where
  | login {message : Message} {wish : TokenWish} {deadline : Nat} {share : Logins.Share}
      (error : PlatformError) :
      session.activity = .handling message (.token wish) deadline →
      shared.logins.share? caller = some share → share.deadline.isSome = true →
      Failing caller session shared (.reply (.login (.error error)))
  | loginTimeout {message : Message} {wish : TokenWish} {deadline : Nat} :
      session.activity = .handling message (.token wish) deadline →
      loginIsLate shared caller = true → Failing caller session shared .loginTimeout
  | platform {message : Message} {account : Account} {deadline : Nat} (error : PlatformError) :
      session.activity = .handling message (.platform account) deadline →
      Failing caller session shared (.reply (.platform (.error error)))
  | deadline {message : Message} {wait : Wait} {deadline : Nat} :
      session.activity = .handling message wait deadline → deadline ≤ shared.clock →
      Failing caller session shared .deadline

variable {shared : Shared} {wait : Wait} {deadline : Nat}

theorem resume?_excuses (stock : setup.handlers = Handler.stock) (sound : session.Sound)
    (busy : session.activity = .handling message wait deadline)
    (business : message.isBusiness = true) {reply : Reply} {stretch : Stretch}
    (resumes : Dispatch.resume? setup caller message wait shared session.context reply =
      some stretch) {failure : Failure} (fails : stretch.stage = .finished (.error failure)) :
    ∃ after, session.resume? setup caller shared reply = some (after.settle setup caller) ∧
      (session.turn shared).Excuses setup message after := by
  refine ⟨(session.turn shared).proceed setup message deadline stretch, ?_, ?_⟩
  · simp [resume?, busy, resumes]
  · have ends : (Deed.resumed message reply stretch).outcome? =
        some (message, .failure message.command failure) := by
      simp [Deed.outcome?, Stretch.result?, fails, Dispatch.outcome]
    exact Turn.Move.excuses stock sound (.resumed busy resumes) business ends

theorem login_excuses (stock : setup.handlers = Handler.stock) (sound : session.Sound)
    {wish : TokenWish} (busy : session.activity = .handling message (.token wish) deadline)
    (business : message.isBusiness = true) {share : Logins.Share}
    (found : shared.logins.share? caller = some share) (inside : share.deadline.isSome = true)
    (error : PlatformError) :
    ∃ after, session.resume? setup caller shared (.login (.error error)) =
        some (after.settle setup caller) ∧
      (session.turn shared).Excuses setup message after := by
  have aim := Dispatch.forward_of_awaits business (sound.waiting _ _ _ busy)
  have resumes : Dispatch.resume? setup caller message (.token wish) shared session.context
      (.login (.error error)) =
        some (Dispatch.loginEnded message wish share (.error error) shared session.context) := by
    simp [Dispatch.resume?, found, inside]
  exact resume?_excuses stock sound busy business resumes
    (Dispatch.loginEnded_refused aim share error)

theorem Failing.excuses (stock : setup.handlers = Handler.stock) (sound : session.Sound)
    {signal : Signal} (failing : session.Failing caller shared signal)
    (pending : session.pending? = some message) (business : message.isBusiness = true) :
    ∃ after, session.step? setup caller shared signal = some (after.settle setup caller) ∧
      (session.turn shared).Excuses setup message after := by
  have own {other : Message} {wait : Wait} {deadline : Nat}
      (busy : session.activity = .handling other wait deadline) : other = message := by
    rw [pending?_of_handling busy] at pending
    exact Option.some.inj pending
  cases failing with
  | login error busy found inside =>
    cases own busy
    exact login_excuses stock sound busy business found inside error
  | loginTimeout busy late =>
    cases own busy
    obtain ⟨share, found, expired⟩ := (Option.any_eq_true _ _).mp late
    obtain ⟨limit, inside, -⟩ := (Option.any_eq_true _ _).mp expired
    obtain ⟨after, goes, excuses⟩ := login_excuses stock sound busy business found
      (Option.isSome_iff_exists.mpr ⟨limit, inside⟩) .timeout
    exact ⟨after, (if_pos late).trans goes, excuses⟩
  | platform error busy =>
    cases own busy
    obtain ⟨failure, fails⟩ := Dispatch.platformAnswered_refused _ error
    exact resume?_excuses stock sound busy business rfl fails
  | deadline busy expired =>
    cases own busy
    obtain ⟨command, named, -⟩ := Message.command_of_business business
    refine ⟨(session.turn shared).expire setup caller message, ?_, ?_⟩
    · simp [step?, busy, expired, Turn.expire, Session.turn]
    · have ends : (Deed.late message).outcome? =
          some (message, .failure message.command { cause := .deadline command }) :=
        congrArg (fun outcome => some (message, outcome)) (Turn.lateOutcome_eq named)
      exact Turn.Move.excuses stock sound (.late busy expired) business ends

/-- Failures look alike. Take any session at any time, and any other session at any time that goes
by the same wire settings, such as the same session once more. Let both take up the same frame as a
new business request, and let both requests fail, each in its own way and after whatever happens in
between. Then both sessions write the same bytes, and keep the same bytes to be asked for again:
they are made of the request and of the wire settings. Whatever error the platform answers with to
the login or to the call that a business request waits for, and when its time is over, the session
writes these bytes and goes on as if nothing had gone wrong; and so it does with a request that the
gate turns away. With the bundled templates the bytes are the code of the answer and one text. -/
theorem failures_look_alike (stock : setup.handlers = Handler.stock) {name : String}
    {peer : Net.SocketAddress} {port : Nat}
    (course : Course setup caller (start setup shared name peer port).session past session) :
    (∀ caller' shared' name' peer' port' past' session',
      Course setup caller' (start setup shared' name' peer' port').session past' session' →
      session'.context.settings = session.context.settings →
      ∀ handling handling' last last' frame message message',
        Course setup caller session handling last →
        Course setup caller' session' handling' last' →
        Record.Fails handling frame message → Record.Fails handling' frame message' →
        message.isBusiness = true → (last.brokenLink = none ↔ last'.brokenLink = none) →
        Effect.written (Record.effects handling) = Effect.written (Record.effects handling') ∧
          last.lastAnswer = last'.lastAnswer) ∧
    (∀ handling last frame message, Course setup caller session handling last →
      Record.Fails handling frame message → message.isBusiness = true →
      Effect.written (Record.effects handling) =
          (if last.brokenLink = none then Turn.trouble setup session.context.settings message
            else []) ∧
        last.lastAnswer = some (Turn.trouble setup session.context.settings message)) ∧
    (∀ now signal message, session.Failing caller now signal →
      session.pending? = some message → message.isBusiness = true →
      ∃ after, session.step? setup caller now signal = some (after.settle setup caller) ∧
        (session.turn now).Excuses setup message after) ∧
    (∀ (now : Shared) frame message cause, session.newRequest? frame = some message →
      message.command.bind (Turn.refusal? now.policy session.context) = some cause →
      (session.turn now).Excuses setup message
        ((session.turn now).handleFrame setup caller frame)) ∧
    (setup.templates = Templates.bundled → ∀ settings message,
      Turn.trouble setup settings message =
        Turn.answerBytes settings message (Turn.delimited settings
          (Templates.answerCode message.command message.code ++
            ("AF" ++ (Cause.troubleText ++ "|"))))) := by
  have sound := course.sound stock (start_sound setup shared name peer port)
  refine ⟨?_, ?_, ?_, ?_, Turn.trouble_bundled⟩
  · intro caller' shared' name' peer' port' past' session' course' alike handling handling' last
      last' frame message message' runs runs' fails fails' business links
    have sound' := course'.sound stock (start_sound setup shared' name' peer' port')
    -- Both read the same frame with the same delimiter, so it is the same request.
    have reads := runs.read_of_fails fails
    have reads' := runs'.read_of_fails fails'
    rw [alike, reads] at reads'
    obtain rfl := Except.ok.inj reads'
    obtain ⟨wrote, kept⟩ := runs.excuses stock sound fails business
    obtain ⟨wrote', kept'⟩ := runs'.excuses stock sound' fails' business
    rw [wrote, wrote', kept, kept', alike]
    simp only [links, and_self]
  · intro handling last frame message runs fails business
    exact runs.excuses stock sound fails business
  · intro now signal message failing pending business
    exact failing.excuses stock sound pending business
  · intro now frame message cause new gate
    exact Turn.handleFrame_excuses new gate

/-! A request for an item: of somebody whom the platform refuses, and of nobody. -/

def askedFrame : List UInt8 := Text.bytesOf "1720250101    120000AOmain|ABb1|"

/-- The platform refuses a request at the desk. -/
def spurned (error : PlatformError) : Episode :=
  let turn := atDesk asking.after.session
  let stretch := Dispatch.platformAnswered Desk.setup itemRequest Desk.account (.error error)
    turn.shared turn.session.context
  { before := turn
    deed := .resumed itemRequest (.platform (.error error)) stretch
    after := turn.proceed Desk.setup itemRequest Desk.setup.requestTimeout stretch }

/-- The same request before anybody has logged in. -/
def barred : Episode :=
  let turn := atDesk (Desk.session deskPolicy)
  { before := turn
    deed := .refused askedFrame itemRequest (.beforeLogin .itemInformation)
    after := turn.answer Desk.setup itemRequest
      (.failure itemRequest.command { cause := .beforeLogin .itemInformation }) }

theorem spurned_fails (error : PlatformError) :
    Course Desk.setup 0 loggingIn.after.session [spurned error, asking]
        (spurned error).after.session ∧
      Record.Fails [spurned error, asking] askedFrame itemRequest := by
  refine ⟨.more (.more .nil asking_move) (.resumed asking_waits rfl),
    ⟨[spurned error], asking, rfl, rfl, rfl⟩, ?_⟩
  have undecided : ∀ other ∈ [asking], other.deed.outcome? = none :=
    List.forall_mem_singleton.mpr rfl
  cases error <;> exact ⟨_, _, _, _, rfl, undecided, rfl⟩

theorem barred_fails :
    Course Desk.setup 0 (Desk.session deskPolicy) [barred] barred.after.session ∧
      Record.Fails [barred] askedFrame itemRequest := by
  refine ⟨.more .nil (.refused (by decide +kernel) (ok_of_toOption (by decide +kernel)) (by decide)
    (by decide +kernel) (by decide +kernel)), ⟨[], barred, rfl, rfl, rfl⟩, ?_⟩
  exact ⟨_, _, _, _, rfl, by simp, rfl⟩

theorem failures_look_alike_item :
    let secret := spurned (.status 500 "no such table: patrons")
    Effect.written (Record.effects [secret, asking]) =
        Text.bytesOf "18AFThere was a problem handling the request|\r" ∧
      Effect.written (Record.effects [secret, asking]) =
        Effect.written (Record.effects [barred]) ∧
      Effect.written (Record.effects [secret, asking]) =
        Effect.written (Record.effects [spurned .unauthorized, asking]) ∧
      ∃ after, asking.after.session.step? Desk.setup 0 (atDesk asking.after.session).shared
          (.reply (.platform (.error .timeout))) = some (after.settle Desk.setup 0) ∧
        (atDesk asking.after.session).Excuses Desk.setup itemRequest after := by
  intro secret
  obtain ⟨alike, explicit, -⟩ := failures_look_alike rfl loggingIn_course
  obtain ⟨-, -, failing, -⟩ := failures_look_alike rfl (.more loggingIn_course asking_move)
  obtain ⟨secretly, fails⟩ := spurned_fails (.status 500 "no such table: patrons")
  obtain ⟨openly, fails'⟩ := spurned_fails .unauthorized
  obtain ⟨early, fails''⟩ := barred_fails
  have business : itemRequest.isBusiness = true := rfl
  refine ⟨?_, ?_, ?_, ?_⟩
  · rw [(explicit _ _ _ _ secretly fails business).1]
    decide +kernel
  · exact (alike _ _ _ _ _ _ _ .nil (by decide +kernel) _ _ _ _ _ _ _ secretly early fails fails''
      business (by decide +kernel)).1
  · exact (alike _ _ _ _ _ _ _ loggingIn_course rfl _ _ _ _ _ _ _ secretly openly fails fails'
      business (by decide +kernel)).1
  · exact failing _ _ itemRequest (.platform .timeout asking_waits) rfl business

end Session

end SelfCheck
