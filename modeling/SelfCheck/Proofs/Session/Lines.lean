import SelfCheck.Proofs.Dispatch.Answers
import SelfCheck.Proofs.Frame.Lines
import SelfCheck.Proofs.Session.Replay

/-! Answers as lines of what a session writes.

Nothing is taken out of the texts that others put into an answer, so one with a carriage return ends
its line early. Where there is none, everything that a session writes is one line, and whoever cuts
the stream gets one frame for each answer that says something.
-/

set_option autoImplicit false

namespace SelfCheck

/-- The texts that come from others, not from the request, in what is answered in an episode: the
platform's that the template of the answer may write, or those of library and station in the answer
to a status request. -/
def Episode.borrowed (episode : Episode) : List String :=
  match episode.deed with
  | .dispatched _ message _ => Dispatch.statusTexts message episode.before.session.context
  | .resumed message reply _ => Dispatch.replyTexts message reply
  | _ => []

/-- An answer that may not be one line: fields are ended by carriage returns too, or a text that
comes from others has one. -/
def Episode.Tainted (episode : Episode) : Prop :=
  Session.fieldDelimiter episode.after.settings = Frame.carriageReturn ∨
    ∃ s ∈ episode.borrowed, ¬Text.Unbroken s

/-- The answer that is made in an episode. -/
def Episode.answer? (setup : Setup) (episode : Episode) : Option (List UInt8) :=
  episode.deed.outcome?.map fun (message, outcome) => episode.after.response setup message outcome

/-- An outcome that is told with borrowed texts and the gateway's own. -/
def Outcome.Speaks (borrowed : List String) : Outcome → Prop
  | .success command model =>
    ∀ s ∈ Templates.bundledTexts command model, s ∈ borrowed ∨ Text.Unbroken s
  | .failure _ trouble => trouble.Plain

namespace Turn

variable {setup : Setup} {caller : Nat} {turn after : Turn} {deed : Deed}

/-! The body of an answer. -/

theorem delimited_unbroken {settings : WireSettings}
    (apart : Session.fieldDelimiter settings ≠ Frame.carriageReturn) {body : String}
    (clean : Text.Unbroken body) : Text.Unbroken (delimited settings body) := by
  unfold delimited Text.Unbroken
  rw [String.toList_ofList, List.mem_map]
  rintro ⟨c, member, same⟩
  split at same
  · apply apart
    have value := congrArg Char.toNat same
    rw [Text.toNat_charOfByte] at value
    exact UInt8.toNat_inj.mp value
  · exact clean (same ▸ member)

theorem delimited_spoken (settings : WireSettings) {body : String}
    (spoken : ∃ c ∈ body.toList, c.isAlphanum = true) :
    ∃ c ∈ (delimited settings body).toList, c.isAlphanum = true := by
  obtain ⟨c, member, sign⟩ := spoken
  refine ⟨c, ?_, sign⟩
  unfold delimited
  rw [String.toList_ofList, List.mem_map]
  refine ⟨c, member, if_neg ?_⟩
  rintro rfl
  revert sign
  decide

theorem rendered_spoken {message : Message} {outcome : Outcome} {body : String}
    (renders : rendered Templates.bundled message outcome = .ok body) :
    ∃ c ∈ body.toList, c.isAlphanum = true := by
  cases outcome with
  | success command model => exact (Templates.render_bundled renders).2
  | failure command failure =>
    simp only [rendered] at renders
    split at renders
    · exact (Templates.render_bundled renders).2
    · exact (Templates.renderFailure_bundled renders).2

theorem rendered_unbroken {message : Message} (clean : message.Unbroken) {outcome : Outcome}
    {borrowed : List String} (speaks : outcome.Speaks borrowed)
    (unbroken : ∀ s ∈ borrowed, Text.Unbroken s) {body : String}
    (renders : rendered Templates.bundled message outcome = .ok body) : Text.Unbroken body := by
  cases outcome with
  | success command model =>
    apply (Templates.render_bundled renders).1
    intro s inside
    exact (speaks s inside).elim (unbroken s) id
  | failure command failure =>
    have plain : failure.Plain := speaks
    simp only [rendered] at renders
    split at renders
    · next given =>
      refine (Templates.render_bundled renders).1 fun s inside => ?_
      exact plain.answer _ given s (Templates.bundledTexts_subset _ _ inside)
    · rw [plain.words] at renders
      exact (Templates.renderFailure_bundled renders).1 clean.code (by decide)

/-- An answer without a carriage return in what it is made of is one line. -/
theorem response_isLine (bundled : setup.templates = Templates.bundled)
    (standard : Session.messageDelimiter turn.settings = Frame.carriageReturn)
    (apart : Session.fieldDelimiter turn.settings ≠ Frame.carriageReturn) {message : Message}
    (clean : message.Unbroken) {outcome : Outcome} {borrowed : List String}
    (speaks : outcome.Speaks borrowed) (unbroken : ∀ s ∈ borrowed, Text.Unbroken s) :
    Frame.IsLine (turn.response setup message outcome) := by
  unfold response answerBytes
  rw [standard, bundled]
  cases renders : rendered Templates.bundled message outcome with
  | error fault => exact Frame.encode_isLine (by decide) (.inl rfl) _
  | ok body =>
    have whole := rendered_unbroken clean speaks unbroken renders
    exact Frame.encode_isLine (delimited_unbroken apart whole)
      (.inr (delimited_spoken _ (rendered_spoken renders))) _

/-- The delimiter is at the end of an answer in any case. -/
theorem response_ends (standard : Session.messageDelimiter turn.settings = Frame.carriageReturn)
    (message : Message) (outcome : Outcome) :
    ∃ body, turn.response setup message outcome = body ++ [Frame.carriageReturn] := by
  unfold response answerBytes
  rw [standard]
  exact ⟨_, rfl⟩

/-! What is written, and what is kept to be written again. -/

/-- The bytes that ask the terminal to send its request again. -/
def resendRequest (turn : Turn) : List UInt8 :=
  Frame.resendRequest turn.settings.errorDetection (Session.messageDelimiter turn.settings)

/-- What a turn has written, and what its session may write again. -/
def sayings (turn : Turn) : List (List UInt8) :=
  turn.written ++ turn.session.lastAnswer.toList

variable {bytes : List UInt8}

@[simp] theorem count_sayings (turn : Turn) (tally : Tally) :
    (turn.count tally).sayings = turn.sayings := by
  simp [sayings, written, count, Effect.written?]

@[simp] theorem finish_sayings (turn : Turn) (ending : Ending) :
    (turn.finish ending).sayings = turn.sayings :=
  count_sayings _ _

@[simp] theorem conclude_sayings (turn : Turn) (ending : Ending) :
    (turn.conclude ending).sayings = turn.sayings := by
  unfold conclude
  cases ending.tally? with
  | none => exact finish_sayings turn ending
  | some tally => exact (finish_sayings _ ending).trans (count_sayings turn tally)

theorem write_sayings {new : List UInt8} (said : bytes ∈ (turn.write new).sayings) :
    bytes ∈ turn.sayings ∨ bytes = new := by
  unfold write at said
  cases link : turn.session.brokenLink with
  | none =>
    simp only [link, sayings, written, List.filterMap_append, List.mem_append] at said ⊢
    rcases said with (early | now) | kept
    · exact .inl (.inl early)
    · exact .inr (by simpa [Effect.written?] using now)
    · exact .inl (.inr kept)
  | some text =>
    simp only [link, finish_sayings, count_sayings] at said
    exact .inl said

theorem askAgain_sayings (said : bytes ∈ turn.askAgain.sayings) :
    bytes ∈ turn.sayings ∨ bytes = turn.resendRequest :=
  write_sayings said

theorem repeatAnswer_sayings (said : bytes ∈ turn.repeatAnswer.sayings) :
    bytes ∈ turn.sayings ∨ bytes = turn.resendRequest := by
  unfold repeatAnswer at said
  cases last : turn.session.lastAnswer with
  | none =>
    rw [last] at said
    exact askAgain_sayings said
  | some kept =>
    rw [last] at said
    rcases write_sayings said with early | rfl
    · exact .inl early
    · exact .inl (by simp [sayings, last])

theorem answer_sayings {message : Message} {outcome : Outcome}
    (said : bytes ∈ (turn.answer setup message outcome).sayings) :
    bytes ∈ turn.sayings ∨ bytes = turn.response setup message outcome := by
  -- Counting and finishing say nothing, so what counts is what is written and kept before.
  have sent : bytes ∈ (Turn.write
      { turn with
        session := { turn.session with
          sequence := turn.session.sequence.advance message
          lastAnswer := some (turn.response setup message outcome)
          activity := .reading turn.shared.clock }
        effects := turn.effects ++
          answerTallies outcome (rendered setup.templates message outcome) }
      (turn.response setup message outcome)).sayings := by
    unfold answer at said
    dsimp only at said
    split at said
    · split at said
      · rwa [finish_sayings, count_sayings] at said
      · rwa [count_sayings] at said
    · exact said
  rcases write_sayings sent with before | now
  · simp only [sayings, written, List.filterMap_append, answerTallies_unwritten, List.append_nil,
      List.mem_append, Option.mem_toList, Option.some.injEq] at before ⊢
    rcases before with early | kept
    · exact .inl (.inl early)
    · exact .inr kept.symm
  · exact .inr now

theorem proceed_sayings {message : Message} {deadline : Nat} {stretch : Stretch}
    (unwritten : stretch.effects.filterMap Effect.written? = [])
    (said : bytes ∈ (turn.proceed setup message deadline stretch).sayings) :
    bytes ∈ turn.sayings ∨ ∃ result, stretch.result? = some result ∧
      bytes = (turn.withContext stretch.context).response setup message
        (Dispatch.outcome message result) := by
  have before {session : Session} (same : session.lastAnswer = turn.session.lastAnswer)
      (said : bytes ∈ Turn.sayings
        { shared := stretch.shared, session, effects := turn.effects ++ stretch.effects }) :
      bytes ∈ turn.sayings := by
    simpa [sayings, written, unwritten, same] using said
  cases stage : stretch.stage with
  | waiting wait =>
    rw [proceed_of_waiting stage] at said
    exact .inl (before rfl said)
  | finished result =>
    rw [proceed_of_finished stage] at said
    rcases answer_sayings said with early | now
    · exact .inl (before rfl early)
    · exact .inr ⟨result, Stretch.result?_eq_some.mpr stage, now⟩

theorem answer?_eq {base : Turn} {message : Message} {outcome : Outcome}
    (done : deed.outcome? = some (message, outcome)) (same : after.settings = base.settings) :
    Episode.answer? setup ⟨turn, deed, after⟩ = some (base.response setup message outcome) := by
  simp only [Episode.answer?, done, Option.map_some, response, same]

/-- A session writes what it could write before, the answer to its request, or that it asks for the
request again. -/
theorem Move.sayings (move : Move setup caller turn deed after)
    (mute : ∀ stretch, deed.stretch? = some stretch →
      stretch.effects.filterMap Effect.written? = [])
    {bytes : List UInt8} (said : bytes ∈ after.sayings) :
    bytes ∈ turn.sayings ∨ bytes = turn.resendRequest ∨
      Episode.answer? setup ⟨turn, deed, after⟩ = some bytes := by
  have settings : after.settings = (deed.contextFrom turn.session.context).settings :=
    move.keeps.settings
  cases move with
  | malformed =>
    rcases askAgain_sayings said with early | now
    · exact .inl (by simpa using early)
    · exact .inr (.inl now)
  | asked => exact (repeatAnswer_sayings said).imp_right .inl
  | repeated =>
    rcases repeatAnswer_sayings said with early | now
    · exact .inl (by simpa using early)
    · exact .inr (.inl now)
  | misplaced =>
    rcases askAgain_sayings said with early | now
    · exact .inl (by simpa using early)
    · exact .inr (.inl now)
  | refused =>
    rcases answer_sayings said with early | rfl
    · exact .inl early
    · exact .inr (.inr (answer?_eq rfl settings))
  | dispatched =>
    rcases proceed_sayings (mute _ rfl) said with early | ⟨result, finishes, rfl⟩
    · exact .inl early
    · exact .inr (.inr (answer?_eq (Option.map_eq_some_iff.mpr ⟨result, finishes, rfl⟩) settings))
  | resumed =>
    rcases proceed_sayings (mute _ rfl) said with early | ⟨result, finishes, rfl⟩
    · exact .inl early
    · exact .inr (.inr (answer?_eq (Option.map_eq_some_iff.mpr ⟨result, finishes, rfl⟩) settings))
  | late =>
    rcases answer_sayings said with early | rfl
    · exact .inl early
    · exact .inr (.inr (answer?_eq rfl settings))
  | overlong =>
    rcases askAgain_sayings said with early | now
    · exact .inl ((count_sayings (turn.withBuffer []) _) ▸ early)
    · exact .inr (.inl now)
  | ended => exact .inl (by simpa using said)
  | stored => exact .inl said
  | waited => exact .inl said
  | severed => exact .inl said

/-! Requests and outcomes without a carriage return of their own. -/

theorem Move.request_unbroken (move : Move setup caller turn deed after)
    (framed : ∀ frame, deed.frame? = some frame → Frame.carriageReturn ∉ frame)
    (pending : ∀ message, turn.session.pending? = some message → message.Unbroken)
    {message : Message} (asked : deed.request? = some message) : message.Unbroken := by
  cases move with
  | refused _ reads =>
    cases asked
    exact Message.read_unbroken (framed _ rfl) reads
  | dispatched _ reads =>
    cases asked
    exact Message.read_unbroken (framed _ rfl) reads
  | resumed busy =>
    cases asked
    exact pending _ (Session.pending?_of_handling busy)
  | late busy =>
    cases asked
    exact pending _ (Session.pending?_of_handling busy)
  | _ => cases asked

theorem refusal?_words {policy : Policy} {context : Context} {command : Command} {cause : Cause}
    (refuses : refusal? policy context command = some cause) :
    cause.publicText = Cause.troubleText := by
  unfold refusal? at refuses
  split at refuses
  · cases refuses
  · split at refuses
    · cases refuses
      rfl
    · split at refuses
      · cases refuses
        rfl
      · simp only [Option.ite_none_left_eq_some] at refuses
        obtain ⟨-, same⟩ := refuses
        cases same
        rfl

theorem lateOutcome_speaks (message : Message) (borrowed : List String) :
    (Session.lateOutcome message).Speaks borrowed := by
  unfold Session.lateOutcome
  cases message.command with
  | none => exact ⟨rfl, by simp⟩
  | some command => exact ⟨rfl, by simp⟩

theorem outcome_speaks {stretch : Stretch} {message : Message} {borrowed : List String}
    (speaks : stretch.Speaks message borrowed) {result : Except Failure Json}
    (finishes : stretch.result? = some result) :
    (Dispatch.outcome message result).Speaks borrowed := by
  have finished := Stretch.result?_eq_some.mp finishes
  cases result with
  | error failure => exact speaks.fails failure finished
  | ok model =>
    unfold Dispatch.outcome
    cases named : message.command with
    | none => exact ⟨rfl, by simp⟩
    | some command => exact speaks.succeeds model finished command named

/-- What a handler lets the terminal read in a move. -/
theorem Move.speaks (stock : setup.handlers = Handler.stock) (sound : turn.session.Sound)
    (move : Move setup caller turn deed after)
    (clean : ∀ message, deed.request? = some message → message.Unbroken) {stretch : Stretch}
    {message : Message} (done : deed.stretch? = some stretch)
    (asked : deed.request? = some message) :
    stretch.Speaks message (Episode.borrowed ⟨turn, deed, after⟩) := by
  cases move with
  | dispatched =>
    cases done
    cases asked
    exact Dispatch.start_speaks stock
  | resumed busy resumes =>
    cases done
    cases asked
    exact Dispatch.resume?_speaks (clean _ rfl) (sound.waiting _ _ _ busy) resumes
  | _ => cases done

theorem Move.outcome_speaks (stock : setup.handlers = Handler.stock) (sound : turn.session.Sound)
    (move : Move setup caller turn deed after)
    (clean : ∀ message, deed.request? = some message → message.Unbroken) {message : Message}
    {outcome : Outcome} (done : deed.outcome? = some (message, outcome)) :
    message.Unbroken ∧ outcome.Speaks (Episode.borrowed ⟨turn, deed, after⟩) := by
  have handles (stretch : Stretch) (request : Message) (mine : deed.stretch? = some stretch)
      (asked : deed.request? = some request) := move.speaks stock sound clean mine asked
  cases move with
  | refused _ _ _ _ gate =>
    cases done
    obtain ⟨command, -, refuses⟩ := Option.bind_eq_some_iff.mp gate
    exact ⟨clean _ rfl, refusal?_words refuses, by simp⟩
  | dispatched =>
    obtain ⟨result, finishes, same⟩ := Option.map_eq_some_iff.mp done
    cases same
    exact ⟨clean _ rfl, Turn.outcome_speaks (handles _ _ rfl rfl) finishes⟩
  | resumed =>
    obtain ⟨result, finishes, same⟩ := Option.map_eq_some_iff.mp done
    cases same
    exact ⟨clean _ rfl, Turn.outcome_speaks (handles _ _ rfl rfl) finishes⟩
  | late =>
    cases done
    exact ⟨clean _ rfl, lateOutcome_speaks _ _⟩
  | _ => cases done

/-- An answer ends in the delimiter, and is one line unless it is tainted. -/
theorem Move.answer_line (stock : setup.handlers = Handler.stock)
    (bundled : setup.templates = Templates.bundled) (sound : turn.session.Sound)
    (move : Move setup caller turn deed after)
    (clean : ∀ message, deed.request? = some message → message.Unbroken)
    (standard : Session.messageDelimiter after.settings = Frame.carriageReturn)
    {bytes : List UInt8} (answers : Episode.answer? setup ⟨turn, deed, after⟩ = some bytes) :
    (∃ body, bytes = body ++ [Frame.carriageReturn]) ∧
      (¬Episode.Tainted ⟨turn, deed, after⟩ → Frame.IsLine bytes) := by
  obtain ⟨⟨message, outcome⟩, done, rfl⟩ := Option.map_eq_some_iff.mp answers
  obtain ⟨own, speaks⟩ := move.outcome_speaks stock sound clean done
  refine ⟨response_ends standard message outcome, ?_⟩
  intro pure
  obtain ⟨apart, unbroken⟩ := not_or.mp pure
  apply response_isLine bundled standard apart own speaks
  intro s member
  exact Decidable.not_not.mp fun broken => unbroken ⟨s, member, broken⟩

end Turn

/-- An episode in a session whose frames end in carriage returns. -/
structure Episode.Standard (episode : Episode) : Prop where
  before : Session.messageDelimiter episode.before.settings = Frame.carriageReturn
  after : Session.messageDelimiter episode.after.settings = Frame.carriageReturn

theorem Episode.Framed.absent {setup : Setup} {episode : Episode} (framed : episode.Framed setup)
    (standard : episode.Standard) {frame : List UInt8} (takes : episode.deed.frame? = some frame) :
    Frame.carriageReturn ∉ frame := by
  obtain ⟨bytes, rest, taken⟩ := framed frame takes
  rw [standard.before] at taken
  exact (Frame.split_eq_frame.mp taken).2.1

/-- Bytes that go out: the answer of an episode on record, or that a request is to be sent again. -/
def Record.Accounts (setup : Setup) (past : List Episode) (bytes : List UInt8) : Prop :=
  (∃ errorDetection, bytes = Frame.resendRequest errorDetection Frame.carriageReturn) ∨
    ∃ source ∈ past, source.answer? setup = some bytes

theorem Record.Accounts.later {setup : Setup} {past : List Episode} {bytes : List UInt8}
    (accounts : Record.Accounts setup past bytes) (episode : Episode) :
    Record.Accounts setup (episode :: past) bytes := by
  rcases accounts with asks | ⟨source, member, answers⟩
  · exact .inl asks
  · exact .inr ⟨source, List.mem_cons_of_mem _ member, answers⟩

namespace Session

variable {setup : Setup} {caller : Nat} {origin session : Session} {past : List Episode}

/-- A session that has read no carriage return, and has its last answer on record. -/
structure Spells (setup : Setup) (past : List Episode) (session : Session) : Prop where
  pending : ∀ message, session.pending? = some message → message.Unbroken
  kept : ∀ bytes, session.lastAnswer = some bytes → Record.Accounts setup past bytes

/-- The request that a session which spells is moved by. -/
theorem Spells.request (spells : Spells setup past session) {shared : Shared} {deed : Deed}
    {turn : Turn} (move : Turn.Move setup caller (session.turn shared) deed turn)
    (framed : Episode.Framed setup ⟨session.turn shared, deed, turn⟩)
    (standard : Episode.Standard ⟨session.turn shared, deed, turn⟩) {message : Message}
    (asked : deed.request? = some message) : message.Unbroken :=
  move.request_unbroken (fun _ takes => framed.absent standard takes) spells.pending asked

theorem Spells.said (spells : Spells setup past session) (stock : setup.handlers = Handler.stock)
    (sound : session.Sound) {shared : Shared} {deed : Deed} {turn : Turn}
    (move : Turn.Move setup caller (session.turn shared) deed turn)
    (framed : Episode.Framed setup ⟨session.turn shared, deed, turn⟩)
    (standard : Episode.Standard ⟨session.turn shared, deed, turn⟩) :
    ∀ bytes ∈ turn.sayings,
      Record.Accounts setup (⟨session.turn shared, deed, turn⟩ :: past) bytes := by
  intro bytes said
  have clean (message : Message) (asked : deed.request? = some message) : message.Unbroken :=
    spells.request move framed standard asked
  have mute (stretch : Stretch) (mine : deed.stretch? = some stretch) :
      stretch.effects.filterMap Effect.written? = [] := by
    obtain ⟨message, asked⟩ := move.request_of_stretch mine
    exact (move.speaks stock sound clean mine asked).unwritten
  rcases move.sayings mute said with before | asks | answers
  -- Nothing is written when a move begins, so what was sayable is the answer that is kept.
  · have kept : session.lastAnswer = some bytes := by
      simpa [Turn.sayings, Turn.written, Session.turn] using before
    exact (spells.kept bytes kept).later _
  · have delimiter : Session.messageDelimiter (session.turn shared).settings =
        Frame.carriageReturn := standard.before
    rw [Turn.resendRequest, delimiter] at asks
    exact .inl ⟨_, asks⟩
  · exact .inr ⟨_, List.mem_cons_self, answers⟩

theorem Spells.move (spells : Spells setup past session) (stock : setup.handlers = Handler.stock)
    (sound : session.Sound) {shared : Shared} {deed : Deed} {turn : Turn}
    (move : Turn.Move setup caller (session.turn shared) deed turn)
    (framed : Episode.Framed setup ⟨session.turn shared, deed, turn⟩)
    (standard : Episode.Standard ⟨session.turn shared, deed, turn⟩) :
    Spells setup (⟨session.turn shared, deed, turn⟩ :: past) turn.session where
  pending := by
    intro message pending
    -- The request waits since this move, or was waiting before it.
    obtain ⟨wait, deadline, busy⟩ := Session.handling_of_pending? pending
    rcases move.waits busy with ⟨-, -, asked, -, -⟩ | ⟨-, before, -⟩
    · exact spells.request move framed standard asked
    · exact spells.pending message (Session.pending?_of_handling before)
  kept := by
    intro bytes kept
    apply spells.said stock sound move framed standard
    simp [Turn.sayings, kept]

theorem Course.spells (stock : setup.handlers = Handler.stock) (sound : origin.Sound)
    (fresh : Spells setup [] origin) (course : Course setup caller origin past session)
    (framed : ∀ episode ∈ past, episode.Framed setup)
    (standard : ∀ episode ∈ past, episode.Standard) : Spells setup past session := by
  induction course with
  | nil => exact fresh
  | more course move ih =>
    obtain ⟨framed, framedBefore⟩ := List.forall_mem_cons.mp framed
    obtain ⟨standard, standardBefore⟩ := List.forall_mem_cons.mp standard
    exact (ih framedBefore standardBefore).move stock (course.sound stock sound) move framed
      standard

/-- Every episode of a run is a move of a session that spells. -/
theorem Run.spells (stock : setup.handlers = Handler.stock) (sound : origin.Sound)
    (fresh : Spells setup [] origin) {later earlier : List Episode} {episode : Episode}
    (run : Run setup caller origin (later ++ episode :: earlier) session)
    (standard : ∀ other ∈ later ++ episode :: earlier, other.Standard) :
    ∃ before shared, episode.before = before.turn shared ∧ before.Sound ∧
      Spells setup earlier before ∧
      Turn.Move setup caller episode.before episode.deed episode.after ∧
      episode.Framed setup ∧ episode.Standard := by
  obtain ⟨before, shared, first, same, move⟩ := run.course.split
  obtain ⟨-, framed⟩ := List.forall_mem_append.mp run.framed
  obtain ⟨framed, framedBefore⟩ := List.forall_mem_cons.mp framed
  obtain ⟨-, standard⟩ := List.forall_mem_append.mp standard
  obtain ⟨standard, standardBefore⟩ := List.forall_mem_cons.mp standard
  exact ⟨before, shared, same, first.sound stock sound,
    first.spells stock sound fresh framedBefore standardBefore, move, framed, standard⟩

/-- An answer ends in the delimiter, and is one line unless it is tainted. -/
theorem Run.answer_line (stock : setup.handlers = Handler.stock)
    (bundled : setup.templates = Templates.bundled) (sound : origin.Sound)
    (fresh : Spells setup [] origin) (run : Run setup caller origin past session)
    (standard : ∀ episode ∈ past, episode.Standard) {source : Episode} (member : source ∈ past)
    {bytes : List UInt8} (answers : source.answer? setup = some bytes) :
    (∃ body, bytes = body ++ [Frame.carriageReturn]) ∧
      (¬source.Tainted → Frame.IsLine bytes) := by
  obtain ⟨later, earlier, rfl⟩ := List.append_of_mem member
  obtain ⟨before, shared, same, soundBefore, spells, move, framed, standard⟩ :=
    run.spells stock sound fresh standard
  obtain ⟨_, deed, after⟩ := source
  subst same
  exact move.answer_line stock bundled soundBefore
    (fun _ asked => spells.request move framed standard asked) standard.after answers

/-- Whatever is written in a run is accounted for. -/
theorem Run.accounts (stock : setup.handlers = Handler.stock) (sound : origin.Sound)
    (fresh : Spells setup [] origin) {later earlier : List Episode} {episode : Episode}
    (run : Run setup caller origin (later ++ episode :: earlier) session)
    (standard : ∀ other ∈ later ++ episode :: earlier, other.Standard) :
    ∀ bytes ∈ episode.written, Record.Accounts setup (episode :: earlier) bytes := by
  intro bytes said
  obtain ⟨before, shared, same, soundBefore, spells, move, framed, standard⟩ :=
    run.spells stock sound fresh standard
  obtain ⟨_, deed, after⟩ := episode
  subst same
  exact spells.said stock soundBefore move framed standard bytes (List.mem_append_left _ said)

theorem start_spells (setup : Setup) (shared : Shared) (name : String) (peer : Net.SocketAddress)
    (port : Nat) : Spells setup [] (start setup shared name peer port).session := by
  obtain ⟨-, idle, -, unanswered, -⟩ := start_session setup shared name peer port
  constructor
  · intro message pending
    rw [idle] at pending
    cases pending
  · intro bytes kept
    rw [unanswered] at kept
    cases kept

/-- What a session with the gateway's own handlers and templates writes, when its frames end in
carriage returns: everything ends in one, and has none before unless the answer it is is tainted.
As long as no answer is, what has been written falls into as many frames as there are lines that
say something. -/
theorem one_line_per_answer (stock : setup.handlers = Handler.stock)
    (bundled : setup.templates = Templates.bundled) {shared : Shared} {name : String}
    {peer : Net.SocketAddress} {port : Nat}
    (run : Run setup caller (start setup shared name peer port).session past session)
    (standard : ∀ episode ∈ past, episode.Standard) :
    (∀ later episode earlier, past = later ++ episode :: earlier → ∀ bytes ∈ episode.written,
      ∃ body, bytes = body ++ [Frame.carriageReturn] ∧
        (Frame.carriageReturn ∈ body →
          ∃ source ∈ episode :: earlier, source.answer? setup = some bytes ∧ source.Tainted)) ∧
    ((∀ episode ∈ past, ¬episode.Tainted) → ∀ limit,
      (∀ bytes ∈ past.reverse.flatMap Episode.written, bytes.length ≤ limit) →
      Frame.takeAll Frame.carriageReturn limit
          (Effect.written (past.reverse.flatMap (·.after.effects))) =
        ⟨((past.reverse.flatMap Episode.written).filter (· ≠ [Frame.carriageReturn])).map
          Frame.contents, none, []⟩) := by
  have sound := start_sound setup shared name peer port
  have fresh := start_spells setup shared name peer port
  constructor
  · rintro later episode earlier rfl bytes said
    rcases run.accounts stock sound fresh standard bytes said with
      ⟨errorDetection, rfl⟩ | ⟨source, member, answers⟩
    · obtain ⟨body, same, absent, -⟩ := Frame.resendRequest_isLine errorDetection
      exact ⟨body, same, fun broken => absurd broken absent⟩
    · obtain ⟨⟨body, rfl⟩, line⟩ := run.answer_line stock bundled sound fresh standard
        (List.mem_append_right _ member) answers
      refine ⟨body, rfl, fun broken => ⟨source, member, answers, ?_⟩⟩
      -- An answer that is not tainted is one line, and that line has no other body.
      apply Classical.byContradiction
      intro pure
      obtain ⟨other, same, absent, -⟩ := line pure
      rw [List.append_cancel_right same] at broken
      exact absent broken
  · intro pure limit short
    have stream : Effect.written (past.reverse.flatMap (·.after.effects)) =
        (past.reverse.flatMap Episode.written).flatten := by
      rw [Effect.written, List.filterMap_flatMap]
      rfl
    rw [stream]
    apply Frame.takeAll_lines
    · intro bytes inStream
      obtain ⟨episode, member, said⟩ := List.mem_flatMap.mp inStream
      obtain ⟨later, earlier, rfl⟩ := List.append_of_mem (List.mem_reverse.mp member)
      rcases run.accounts stock sound fresh standard bytes said with
        ⟨errorDetection, rfl⟩ | ⟨source, member, answers⟩
      · exact Frame.resendRequest_isLine errorDetection
      · have onRecord := List.mem_append_right later member
        exact (run.answer_line stock bundled sound fresh standard onRecord answers).2
          (pure source onRecord)
    · exact short

/-! A login at the desk, and a request that the platform answers. -/

def deskPolicy : Policy := Desk.policy false [.itemInformation]

/-- A session at the desk when it is told something. -/
def atDesk (session : Session) : Turn := session.turn (Desk.shared deskPolicy Desk.served)

def loginRequest : Message where
  code := "93"
  command := some .login
  fixed := [⟨"uid_algorithm", "0"⟩, ⟨"pwd_algorithm", "0"⟩]
  tagged := [⟨"CN", "u"⟩, ⟨"CO", "p"⟩]
  sequence := none
  checksum := none

def itemRequest : Message where
  code := "17"
  command := some .itemInformation
  fixed := [⟨"transaction_date", "20250101    120000"⟩]
  tagged := [⟨"AO", "main"⟩, ⟨"AB", "b1"⟩]
  sequence := none
  checksum := none

def itemAnswer (screen : String) : Json :=
  .object [("screen_message", .string screen), ("title_identifier", .string "T")]

/-- A new request at the desk. -/
def handing (frame : String) (message : Message) (session : Session) : Episode :=
  let stretch := Dispatch.start Desk.setup 0 message (atDesk session).shared session.context
  { before := atDesk session
    deed := .dispatched (Text.bytesOf frame) message stretch
    after := (atDesk session).proceed Desk.setup message Desk.setup.requestTimeout stretch }

/-- The platform's answer to a request at the desk. -/
def answering (answer : Json) (message : Message) (session : Session) : Episode :=
  let stretch := Dispatch.platformAnswered Desk.setup message Desk.account (.ok answer)
    (atDesk session).shared session.context
  { before := atDesk session
    deed := .resumed message (.platform (.ok answer)) stretch
    after := (atDesk session).proceed Desk.setup message Desk.setup.requestTimeout stretch }

def loggingIn : Episode := handing "9300CNu|COp|" loginRequest (Desk.session deskPolicy)

def asking : Episode :=
  handing "1720250101    120000AOmain|ABb1|" itemRequest loggingIn.after.session

/-- The platform's answer has a carriage return in a member that is not written. -/
def getting : Episode :=
  answering (.object [("note", .string "a\rb"), ("screen_message", .string "ok"),
    ("title_identifier", .string "T")]) itemRequest asking.after.session

theorem loggingIn_course :
    Course Desk.setup 0 (Desk.session deskPolicy) [loggingIn] loggingIn.after.session :=
  .more .nil (.dispatched (by decide +kernel) (ok_of_toOption (by decide +kernel)) (by decide)
    (by decide +kernel) (by decide +kernel))

theorem asking_move :
    Turn.Move Desk.setup 0 (atDesk loggingIn.after.session) asking.deed asking.after :=
  .dispatched (by decide +kernel) (ok_of_toOption (by decide +kernel)) (by decide)
    (by decide +kernel) (by decide +kernel)

theorem asking_waits : asking.after.session.activity =
    .handling itemRequest (.platform Desk.account) Desk.setup.requestTimeout := rfl

theorem one_line_per_answer_item :
    ∃ past session, Run Desk.setup 0 (Desk.session deskPolicy) past session ∧
      Frame.takeAll Frame.carriageReturn 100
          (Effect.written (past.reverse.flatMap (·.after.effects))) =
        ⟨[Text.bytesOf "941",
          Text.bytesOf "1801000119700101    000000ABb1|AJT|AFok|"], none, []⟩ := by
  have course : Course Desk.setup 0 (Desk.session deskPolicy) [getting, asking, loggingIn]
      getting.after.session :=
    .more (.more loggingIn_course asking_move) (.resumed asking_waits rfl)
  have framed : ∀ episode ∈ [getting, asking, loggingIn], episode.Framed Desk.setup := by
    simp only [List.forall_mem_cons, List.not_mem_nil, false_implies, implies_true, and_true]
    refine ⟨Episode.framed_of_none rfl, ?_, ?_⟩
    · rintro frame ⟨⟩
      exact ⟨Desk.line "1720250101    120000AOmain|ABb1|", [], by decide +kernel⟩
    · rintro frame ⟨⟩
      exact ⟨Desk.line "9300CNu|COp|", [], by decide +kernel⟩
  have standard : ∀ episode ∈ [getting, asking, loggingIn], episode.Standard := by
    simp only [List.forall_mem_cons, List.not_mem_nil, false_implies, implies_true, and_true]
    exact ⟨⟨by decide +kernel, by decide +kernel⟩, ⟨by decide +kernel, by decide +kernel⟩,
      ⟨by decide +kernel, by decide +kernel⟩⟩
  have pure : ∀ episode ∈ [getting, asking, loggingIn], ¬episode.Tainted := by
    unfold Episode.Tainted
    decide +kernel
  obtain ⟨-, lines⟩ := one_line_per_answer rfl rfl ⟨course, framed⟩ standard
  refine ⟨_, _, ⟨course, framed⟩, (lines pure 100 (by decide +kernel)).trans ?_⟩
  have contents : (([getting, asking, loggingIn].reverse.flatMap Episode.written).filter
      (· ≠ [Frame.carriageReturn])).map Frame.contents =
        [Text.bytesOf "941", Text.bytesOf "1801000119700101    000000ABb1|AJT|AFok|"] := by
    decide +kernel
  rw [contents]

/-- How many answers a session gives to signals, and how many frames the terminal gets out of
them. -/
def answersAndFrames (setup : Setup) (policy : Policy) (signals : List Signal) :
    Option (Nat × Nat) :=
  let shared := Desk.shared policy Desk.served
  let session := (start setup shared "s" Desk.terminal 6443).session
  (session.play? setup 0 (signals.map (shared, ·))).map fun (effects, _) =>
    ((effects.filterMap Effect.written?).length,
      (Frame.takeAll Frame.carriageReturn setup.maxFrame (Effect.written effects)).frames.length)

def statusRequest : Signal := .received (Desk.line "9900302.00")

/-- A carriage return in a text of the platform or of the station, or as field delimiter, makes
more than one frame of an answer. -/
theorem answer_in_pieces :
    answersAndFrames Desk.setup deskPolicy
        [.received (Desk.line "9300CNu|COp|"),
          .received (Desk.line "1720250101    120000AOmain|ABb1|"),
          .reply (.platform (.ok (itemAnswer "no\rloan")))] = some (2, 3) ∧
      answersAndFrames { Desk.setup with station := { libraryName := "Main\rLibrary" } } deskPolicy
        [statusRequest] = some (1, 2) ∧
      answersAndFrames Desk.setup
        { tenants := [(Desk.library,
          { session := { errorDetection := false, fieldDelimiter := '\r' } })] }
        [statusRequest] = some (1, 4) := by
  decide +kernel

end Session

end SelfCheck
