import SelfCheck.Proofs.Session.Binding
import SelfCheck.Proofs.Session.Replay

/-! Whose answer a repeated request gets.

A session keeps the answer to the latest request of all, but knows only the latest request with a
digit and a checksum again. The two are the same as long as every request has both, which it must
have only while the wire settings ask for error detection. These come from the library's profile, so
they may change with every login that finds the library anew.
-/

set_option autoImplicit false

namespace SelfCheck

namespace Message

/-- Whether a request can be known again: it has a digit and a checksum. -/
def isNumbered (message : Message) : Bool :=
  message.sequence.isSome && message.checksum.isSome

theorem isNumbered_iff {message : Message} :
    message.isNumbered = true ↔
      ∃ digit checksum, message.sequence = some digit ∧ message.checksum = some checksum := by
  simp [isNumbered, Option.isSome_iff_exists]

/-- Under another field delimiter a frame is the same command with the same digit and checksum, if
it can be read at all. -/
theorem read_alike {frame : List UInt8} {delimiter other : UInt8} {message again : Message}
    (reads : read frame delimiter = .ok message) (rereads : read frame other = .ok again) :
    again.command = message.command ∧ again.sequence = message.sequence ∧
      again.checksum = message.checksum := by
  obtain ⟨unwrapped, _, stages⟩ := exists_stages reads
  obtain ⟨unwrapped', _, stages'⟩ := exists_stages rereads
  have same := stages'.opened
  rw [stages.opened] at same
  cases same
  refine ⟨?_, stages'.sequence.trans stages.sequence.symm,
    stages'.checksum.trans stages.checksum.symm⟩
  rw [stages'.command, stages'.code, stages.command, stages.code]

end Message

namespace Sequence

theorem classify_fresh {sequence : Sequence} {message : Message}
    (new : sequence.classify message true = .fresh) : message.isNumbered = true := by
  cases numbered : message.sequence with
  | none => simp [classify, numbered] at new
  | some digit =>
    cases summed : message.checksum with
    | none => simp [classify, numbered, summed] at new
    | some checksum => simp [Message.isNumbered, numbered, summed]

theorem advance_of_unnumbered (sequence : Sequence) {message : Message}
    (bare : message.isNumbered = false) : sequence.advance message = sequence := by
  unfold advance
  cases numbered : message.sequence with
  | none => rfl
  | some digit =>
    cases summed : message.checksum with
    | none => rfl
    | some checksum => simp [Message.isNumbered, numbered, summed] at bare

/-- What is remembered after some requests, the latest first, comes from the latest with a digit and
a checksum. -/
theorem advance_behind_find? (request : Message) (requests : List Message) :
    (behind (requests.find? Message.isNumbered)).advance request =
      behind ((request :: requests).find? Message.isNumbered) := by
  cases numbered : request.isNumbered with
  | false => rw [advance_of_unnumbered _ numbered, List.find?_cons, numbered]
  | true =>
    obtain ⟨digit, checksum, hasDigit, hasSum⟩ := Message.isNumbered_iff.mp numbered
    rw [advance_eq_behind _ hasDigit hasSum, List.find?_cons, numbered]

/-- A request is taken for a repeated one only when it has the digit and the checksum of the one
that is remembered. -/
theorem classify_behind_repeated {latest : Option Message} {message : Message} {detects : Bool}
    (again : (behind latest).classify message detects = .repeated) :
    ∃ request, latest = some request ∧ message.isNumbered = true ∧
      request.sequence = message.sequence ∧ request.checksum = message.checksum := by
  unfold classify at again
  split at again
  · cases again
  · split at again
    · next digit checksum numbered summed =>
      split at again
      · next same =>
        cases latest with
        | none => cases same
        | some request =>
          refine ⟨request, rfl, Message.isNumbered_iff.mpr ⟨_, _, numbered, summed⟩, ?_⟩
          simp only [behind, advance] at same
          split at same
          · next ofRequest sumOfRequest =>
            cases same
            exact ⟨ofRequest.trans numbered.symm, sumOfRequest.trans summed.symm⟩
          · cases same
      · split at again <;> cases again
    · cases again

end Sequence

/-- What is written of some bytes that are sent in an episode: nothing over a broken link. -/
def Episode.sent (episode : Episode) (bytes : List UInt8) : List (List UInt8) :=
  if episode.before.session.brokenLink = none then [bytes] else []

/-- The answer to a request with the digit and the checksum of a message. -/
def Episode.AnswersAs (episode : Episode) (message : Message) : Prop :=
  ∃ request outcome, episode.deed.outcome? = some (request, outcome) ∧
    request.isNumbered = true ∧ request.sequence = message.sequence ∧
    request.checksum = message.checksum

namespace Record

/-- The latest answered request that passes a test has been answered in some episode, and none that
passes has been answered since. -/
theorem exists_of_find?_answered {past : List Episode} {test : Message → Bool} {request : Message}
    (found : (answered past).find? test = some request) :
    ∃ since first before outcome, past = since ++ first :: before ∧
      first.deed.outcome? = some (request, outcome) ∧
      ∀ other ∈ answered since, test other = false := by
  obtain ⟨-, newer, older, whole, fails⟩ := List.find?_eq_some_iff_append.mp found
  obtain ⟨since, rest, rfl, rfl, tail⟩ := List.filterMap_eq_append_iff.mp whole
  obtain ⟨quiet, first, before, rfl, silent, named, -⟩ := List.filterMap_eq_cons_iff.mp tail
  obtain ⟨⟨own, outcome⟩, done, rfl⟩ := Option.map_eq_some_iff.mp named
  refine ⟨since ++ quiet, first, before, outcome, by simp, done, ?_⟩
  intro other member
  -- The episodes right before the answer have no outcome, so they add nothing to the list.
  have same : answered (since ++ quiet) = answered since := by
    simp only [answered, List.filterMap_append, List.filterMap_eq_nil_iff.mpr silent,
      List.append_nil]
  rw [same] at member
  simpa using fails other member

/-- Where nobody has been answered since an answer, that answer is the latest. -/
theorem Answers.of_silent {since before : List Episode} {first : Episode} {request : Message}
    {outcome : Outcome} (done : first.deed.outcome? = some (request, outcome))
    (silent : answered since = []) {latest : Message} {bytes : List UInt8}
    (answers : Answers (since ++ first :: before) latest bytes) :
    latest = request ∧ first.written = [bytes] := by
  obtain ⟨middle, answer, older, other, whole, quiet, answered, wrote⟩ := answers
  have found : (middle ++ answer :: older).find? (·.deed.outcome?.isSome) = some answer := by
    refine List.find?_eq_some_iff_append.mpr ⟨by simp [answered], middle, older, rfl, ?_⟩
    intro episode member
    simp [quiet episode member]
  have foundFirst : (since ++ first :: before).find? (·.deed.outcome?.isSome) = some first := by
    refine List.find?_eq_some_iff_append.mpr ⟨by simp [done], since, before, rfl, ?_⟩
    intro episode member
    simpa using List.filterMap_eq_nil_iff.mp silent episode member
  rw [← whole, foundFirst] at found
  cases found
  rw [done] at answered
  cases answered
  exact ⟨rfl, wrote⟩

end Record

namespace Turn

variable {setup : Setup} {caller : Nat} {turn after : Turn} {deed : Deed}

/-! A session that is not over after an answer has a link that works. -/

theorem answer_heard {turn : Turn} (message : Message) (outcome : Outcome)
    (alive : (turn.answer setup message outcome).session.ending? = none) :
    turn.session.brokenLink = none := by
  cases link : turn.session.brokenLink with
  | none => rfl
  | some text =>
    rw [answer_severed link] at alive
    cases alive

theorem proceed_heard (turn : Turn) (message : Message) (deadline : Nat) {stretch : Stretch}
    (alive : (turn.proceed setup message deadline stretch).session.ending? = none)
    (finishes : stretch.result?.isSome = true) : turn.session.brokenLink = none := by
  obtain ⟨result, finishes⟩ := Option.isSome_iff_exists.mp finishes
  rw [proceed_of_finished (Stretch.result?_eq_some.mp finishes)] at alive
  have linked := answer_heard message _ alive
  exact linked

theorem proceed_settled (turn : Turn) (message : Message) (deadline : Nat) {stretch : Stretch}
    (finishes : stretch.result?.isSome = true) :
    (turn.proceed setup message deadline stretch).session.pending? = none := by
  obtain ⟨result, finishes⟩ := Option.isSome_iff_exists.mp finishes
  rw [proceed_of_finished (Stretch.result?_eq_some.mp finishes)]
  exact (answer_rests _ _ _).2

theorem Move.heard (move : Move setup caller turn deed after)
    (alive : after.session.ending? = none) (answers : deed.outcome?.isSome = true) :
    turn.session.brokenLink = none := by
  cases move with
  | refused => exact answer_heard _ _ alive
  | dispatched => exact proceed_heard turn _ _ alive (by simpa [Deed.outcome?] using answers)
  | resumed => exact proceed_heard turn _ _ alive (by simpa [Deed.outcome?] using answers)
  | late =>
    have linked := answer_heard _ _ alive
    exact linked
  | _ => cases answers

/-- After an answer nothing is pending. -/
theorem Move.settled (move : Move setup caller turn deed after)
    (answers : deed.outcome?.isSome = true) : after.session.pending? = none := by
  cases move with
  | refused => exact (answer_rests _ _ _).2
  | dispatched => exact proceed_settled turn _ _ (by simpa [Deed.outcome?] using answers)
  | resumed => exact proceed_settled turn _ _ (by simpa [Deed.outcome?] using answers)
  | late => exact (answer_rests _ _ _).2
  | _ => cases answers

/-- What is executed is new. -/
theorem Move.of_executed (move : Move setup caller turn deed after) {message : Message}
    (executes : deed.executed? = some message) :
    turn.session.sequence.classify message turn.settings.errorDetection = .fresh := by
  cases move with
  | refused _ _ _ new =>
    cases executes
    exact new
  | dispatched _ _ _ new =>
    cases executes
    exact new
  | _ => cases executes

theorem Move.of_repeated (move : Move setup caller turn deed after) {frame : List UInt8}
    {message : Message} (again : deed = .repeated frame message) :
    turn.session.sequence.classify message turn.settings.errorDetection = .repeated ∧
      after = (turn.count .resend).repeatAnswer := by
  cases move with
  | repeated _ _ _ verdict =>
    cases again
    exact ⟨verdict, rfl⟩
  | _ => cases again

/-! How a frame is taken up is up to what it is read as. -/

theorem Move.of_fault (move : Move setup caller turn deed after) {frame : List UInt8}
    (takes : deed.frame? = some frame) {fault : FrameError}
    (fails : Message.read frame (Session.fieldDelimiter turn.settings) = .error fault) :
    deed = .malformed frame fault ∧ after = turn.rejectMalformed fault :=
  move.unique (.malformed (move.reading takes) fails) takes rfl

/-- A request that is not sent to get the last answer is taken up according to its verdict. -/
theorem Move.of_request (move : Move setup caller turn deed after) {frame : List UInt8}
    (takes : deed.frame? = some frame) {message : Message}
    (reads : Message.read frame (Session.fieldDelimiter turn.settings) = .ok message)
    (request : message.command ≠ some .requestAcsResend) :
    match turn.session.sequence.classify message turn.settings.errorDetection with
    | .repeated => deed = .repeated frame message ∧ after = (turn.count .resend).repeatAnswer
    | .invalid => deed = .misplaced frame message
    | .fresh => (∃ cause, deed = .refused frame message cause ∧
          message.command.bind (refusal? turn.shared.policy turn.session.context) = some cause) ∨
        ∃ stretch, deed = .dispatched frame message stretch := by
  have reading := move.reading takes
  cases verdict : turn.session.sequence.classify message turn.settings.errorDetection with
  | repeated => exact move.unique (.repeated reading reads request verdict) takes rfl
  | invalid => exact (move.unique (.misplaced reading reads request verdict) takes rfl).1
  | fresh =>
    cases gate : message.command.bind (refusal? turn.shared.policy turn.session.context) with
    | some cause =>
      obtain ⟨same, -⟩ := move.unique (.refused reading reads request verdict gate) takes rfl
      exact .inl ⟨cause, same, rfl⟩
    | none =>
      obtain ⟨same, -⟩ := move.unique (.dispatched reading reads request verdict gate) takes rfl
      exact .inr ⟨_, same⟩

/-- Without a frame nothing changes on the wire. -/
theorem Move.settings_eq (move : Move setup caller turn deed after)
    (frameless : deed.frame? = none) : after.settings = turn.settings := by
  have keeps : after.settings = (deed.contextFrom turn.session.context).settings :=
    move.keeps.settings
  rw [keeps]
  cases move with
  | resumed _ resumes => exact (Dispatch.resume?_offWire resumes).settings
  | dispatched => cases frameless
  | _ => rfl

theorem Move.of_dispatched {frame : List UInt8} {message : Message} {stretch : Stretch}
    (move : Move setup caller turn (.dispatched frame message stretch) after) :
    Message.read frame (Session.fieldDelimiter turn.settings) = .ok message ∧
      turn.session.sequence.classify message turn.settings.errorDetection = .fresh ∧
      stretch = Dispatch.start setup caller message turn.shared turn.session.context := by
  cases move with
  | dispatched _ reads _ new => exact ⟨reads, new, rfl⟩

end Turn

namespace Session

/-- What a session remembers as long as it is not over, said by its record: all requests are
accounted for, the one to know again is the latest with a digit and a checksum, and the bytes kept
are those of the latest answer. -/
structure Recalls (past : List Episode) (session : Session) : Prop where
  settles : session.Settles past
  sequence : session.sequence =
    Sequence.behind ((Record.answered past).find? Message.isNumbered)
  retains : session.Retains past

variable {setup : Setup} {caller : Nat} {origin session : Session} {past : List Episode}
  {shared : Shared} {deed : Deed} {turn : Turn}

theorem Recalls.move (recalls : Recalls past session)
    (move : Turn.Move setup caller (session.turn shared) deed turn)
    (alive : turn.session.ending? = none) :
    Recalls (⟨session.turn shared, deed, turn⟩ :: past) turn.session where
  settles := recalls.settles.move move
  retains := recalls.retains.move move (move.heard alive)
  sequence := by
    rw [Record.answered_cons]
    cases done : deed.outcome? with
    | none =>
      simp only [Option.map_none, Option.toList_none, List.nil_append]
      exact (move.remembers done).1.trans recalls.sequence
    | some outcome =>
      obtain ⟨request, outcome⟩ := outcome
      have linked := move.heard alive (by simp [done])
      simp only [Option.map_some, Option.toList_some, List.singleton_append]
      rw [← Sequence.advance_behind_find?, ← recalls.sequence]
      exact (move.answers linked done).sequence

theorem start_recalls (setup : Setup) (shared : Shared) (name : String) (peer : Net.SocketAddress)
    (port : Nat) : Recalls [] (start setup shared name peer port).session := by
  obtain ⟨-, idle, sequence, -⟩ := start_session setup shared name peer port
  refine ⟨?_, sequence, ?_⟩
  · rw [Settles, idle]
    rfl
  · intro request first
    cases first

theorem Course.recalls (fresh : Recalls [] origin)
    (course : Course setup caller origin past session) (alive : session.ending? = none) :
    Recalls past session := by
  -- No session comes back after its end, so the hypothesis goes down the course.
  induction course with
  | nil => exact fresh
  | more course move ih => exact (ih (move.alive alive)).move move alive

/-- A frame is taken up by a session that remembers its record. -/
theorem Course.takes {later earlier : List Episode} {episode : Episode} (fresh : Recalls [] origin)
    (course : Course setup caller origin (later ++ episode :: earlier) session)
    {frame : List UInt8} (takes : episode.deed.frame? = some frame) :
    ∃ before shared, Course setup caller origin earlier before ∧
      episode.before = before.turn shared ∧ before.isReading = true ∧ Recalls earlier before ∧
      Turn.Move setup caller (before.turn shared) episode.deed episode.after := by
  obtain ⟨before, shared, reached, same, move⟩ := course.split
  have reading := move.reading takes
  rw [same] at reading move
  exact ⟨before, shared, reached, same, reading,
    reached.recalls fresh (ending?_of_isReading reading), move⟩

theorem Course.settles (fresh : origin.Settles [])
    (course : Course setup caller origin past session) : session.Settles past := by
  induction course with
  | nil => exact fresh
  | more course move ih => exact ih.move move

/-- What a session has executed since an answer has been answered since, once it waits for the
terminal. -/
theorem Course.executed_since {since before : List Episode} {first : Episode}
    (fresh : origin.Settles [])
    (course : Course setup caller origin (since ++ first :: before) session)
    (reading : session.isReading = true) (answers : first.deed.outcome?.isSome = true) :
    Record.executed since = Record.answered since := by
  have whole := (course.settles fresh).answered reading
  obtain ⟨middle, reached, -⟩ := course.cut
  -- Nothing was pending after the answer, so the two agree up to there as well.
  have rests : middle.pending? = none := by
    cases reached with
    | more _ move => exact move.settled answers
  have part : Record.executed (first :: before) = Record.answered (first :: before) := by
    rw [reached.settles fresh, rests]
    rfl
  have split : Record.answered since ++ Record.answered (first :: before) =
      Record.executed since ++ Record.executed (first :: before) := by
    rw [Record.answered, Record.answered, ← List.filterMap_append, Record.executed,
      Record.executed, ← List.filterMap_append]
    exact whole
  rw [part] at split
  exact (List.append_cancel_right split).symm

/-- Which answer a resend gets, in any session and however its settings change. The request that it
is taken for has been answered before, with the same digit and checksum. Every request executed
since lacked one of them, and was executed while error detection was off. What is written, if the
link works, is the latest answer of all: that of the very request, if no other has been executed
since. -/
theorem resend_gets_latest_answer {name : String} {peer : Net.SocketAddress} {port : Nat}
    {later earlier : List Episode} {episode : Episode}
    (course : Course setup caller (start setup shared name peer port).session
      (later ++ episode :: earlier) session) {frame : List UInt8} {message : Message}
    (again : episode.deed = .repeated frame message) :
    ∃ since first before latest bytes, earlier = since ++ first :: before ∧
      first.AnswersAs message ∧
      (∀ other ∈ since, ∀ request, other.deed.executed? = some request →
        request.isNumbered = false ∧ other.before.settings.errorDetection = false) ∧
      Record.Answers earlier latest bytes ∧
      (Record.executed since = [] → first.written = [bytes]) ∧
      episode.written = episode.sent bytes := by
  have fresh := start_recalls setup shared name peer port
  obtain ⟨session, shared', reached, same, reading, recalls, move⟩ :=
    course.takes fresh (by rw [again]; rfl)
  obtain ⟨verdict, written⟩ := move.of_repeated again
  have verdict : session.sequence.classify message _ = .repeated := verdict
  rw [recalls.sequence] at verdict
  obtain ⟨request, found, -, sameDigit, sameSum⟩ := Sequence.classify_behind_repeated verdict
  obtain ⟨since, first, before, outcome, whole, done, bare⟩ :=
    Record.exists_of_find?_answered found
  -- Somebody has been answered, so there is a latest answer, and its bytes are kept.
  obtain ⟨latest, some⟩ : ∃ latest, (Record.answered earlier).head? = some latest := by
    cases answered : Record.answered earlier with
    | nil => simp [answered] at found
    | cons latest _ => exact ⟨latest, rfl⟩
  obtain ⟨bytes, kept, answers⟩ := recalls.retains latest some
  subst whole
  have since_eq := reached.executed_since fresh.settles reading (by simp [done])
  refine ⟨since, first, before, latest, bytes, rfl,
    ⟨request, outcome, done, List.find?_some found, sameDigit, sameSum⟩, ?_, answers, ?_, ?_⟩
  · intro other member executed executes
    have unnumbered : executed.isNumbered = false := by
      apply bare
      rw [← since_eq]
      exact List.mem_filterMap.mpr ⟨other, member, executes⟩
    refine ⟨unnumbered, ?_⟩
    obtain ⟨-, -, -, -, -, taken⟩ := reached.split_of_mem (List.mem_append_left _ member)
    have new := taken.of_executed executes
    cases detects : other.before.settings.errorDetection with
    | false => rfl
    | true =>
      rw [detects] at new
      rw [Sequence.classify_fresh new] at unnumbered
      cases unnumbered
  · intro silent
    rw [since_eq] at silent
    exact (answers.of_silent done silent).2
  · rw [Episode.written, Episode.sent, written, same]
    exact Turn.repeatAnswer_written_eq ((session.turn shared').count .resend) kept

/-! A desk where only logins find the library, and its profile turns error detection on or off. -/

def unplaced (detects : Bool) : Setup :=
  { resolvers := [.always .login Desk.library], settings := { errorDetection := detects } }

/-- A session at such a desk when it is told something. -/
def atUnplaced (detects : Bool) (logins : Logins) (session : Session) : Turn :=
  session.turn (Desk.shared (Desk.policy (!detects) []) logins)

def newcomer (detects : Bool) : Session :=
  (start (unplaced detects) (Desk.shared (Desk.policy (!detects) []) Desk.served) "s"
    Desk.terminal 6443).session

/-- A new request there. -/
def beginning (detects : Bool) (frame : List UInt8) (message : Message) (turn : Turn) : Episode :=
  let stretch := Dispatch.start (unplaced detects) 0 message turn.shared turn.session.context
  { before := turn
    deed := .dispatched frame message stretch
    after := turn.proceed (unplaced detects) message
      (turn.shared.clock + (unplaced detects).requestTimeout) stretch }

def repeating (frame : List UInt8) (message : Message) (turn : Turn) : Episode where
  before := turn
  deed := .repeated frame message
  after := (turn.count .resend).repeatAnswer

def namelessFrame : List UInt8 := Frame.encode "9300CN|CO|" (.sequenced 4) Frame.carriageReturn

def nameless : Message :=
  Desk.login "" "" (some ⟨4, by decide⟩) (some (Frame.checksum (Text.bytesOf "9300CN|CO|AY4AZ")))

/-- A login without a user, which is refused. -/
def refusing (detects : Bool) : Episode :=
  beginning detects namelessFrame nameless (atUnplaced detects Desk.served (newcomer detects))

theorem refusing_course (detects : Bool) :
    Course (unplaced detects) 0 (newcomer detects) [refusing detects]
      (refusing detects).after.session := by
  cases detects with
  | false =>
    exact .more .nil (.dispatched (by decide +kernel) (ok_of_toOption (by decide +kernel))
      (by decide) (by decide +kernel) (by decide +kernel))
  | true =>
    exact .more .nil (.dispatched (by decide +kernel) (ok_of_toOption (by decide +kernel))
      (by decide) (by decide +kernel) (by decide +kernel))

/-! A login without a digit between a request and its resend. -/

/-- The login finds the library, and with it error detection. -/
def admitting : Episode :=
  beginning false (Desk.line "9300CNu|COp|") (Desk.login "u" "p" none none)
    (atUnplaced false Desk.served (refusing false).after.session)

def resending : Episode :=
  repeating namelessFrame nameless (atUnplaced false Desk.served admitting.after.session)

theorem resending_course :
    Course (unplaced false) 0 (newcomer false) [resending, admitting, refusing false]
      resending.after.session := by
  have admitted : Course (unplaced false) 0 (newcomer false) [admitting, refusing false]
      admitting.after.session :=
    .more (refusing_course false) (.dispatched (by decide +kernel)
      (ok_of_toOption (by decide +kernel)) (by decide) (by decide +kernel) (by decide +kernel))
  exact .more admitted (.repeated (by decide +kernel) (ok_of_toOption (by decide +kernel))
    (by decide) (by decide +kernel))

theorem resend_gets_latest_answer_unplaced :
    ∃ since first before latest bytes, [admitting, refusing false] = since ++ first :: before ∧
      first.AnswersAs nameless ∧
      (∀ other ∈ since, ∀ request, other.deed.executed? = some request →
        request.isNumbered = false ∧ other.before.settings.errorDetection = false) ∧
      Record.Answers [admitting, refusing false] latest bytes ∧
      (Record.executed since = [] → first.written = [bytes]) ∧ resending.written = [bytes] := by
  have course : Course (unplaced false) 0 (newcomer false)
      ([] ++ resending :: [admitting, refusing false]) resending.after.session := resending_course
  obtain ⟨since, first, before, latest, bytes, whole, same, bare, answers, own, written⟩ :=
    resend_gets_latest_answer course rfl
  have linked : resending.before.session.brokenLink = none := by decide +kernel
  rw [Episode.sent, if_pos linked] at written
  exact ⟨since, first, before, latest, bytes, whole, same, bare, answers, own, written⟩

/-- A refused login is sent again, and gets the answer to the login that was admitted since. -/
theorem resend_gets_answer_of_other :
    Course (unplaced false) 0 (newcomer false) [resending, admitting, refusing false]
        resending.after.session ∧
      (∃ stretch, (refusing false).deed = .dispatched namelessFrame nameless stretch) ∧
      resending.deed = .repeated namelessFrame nameless ∧
      (refusing false).written = [Text.bytesOf "940\r"] ∧
      resending.written = [Frame.encode "941" .checksum Frame.carriageReturn] :=
  ⟨resending_course, ⟨_, rfl⟩, rfl, by decide +kernel, by decide +kernel⟩

/-! The same login once more. -/

theorem Course.settings_eq (course : Course setup caller origin past session)
    (frameless : ∀ episode ∈ past, episode.deed.frame? = none) :
    session.context.settings = origin.context.settings := by
  induction course with
  | nil => rfl
  | more course move ih =>
    obtain ⟨last, before⟩ := List.forall_mem_cons.mp frameless
    exact (move.settings_eq last).trans (ih before)

theorem executed_of_frameless {past : List Episode}
    (frameless : ∀ episode ∈ past, episode.deed.frame? = none) : Record.executed past = [] :=
  List.filterMap_eq_nil_iff.mpr fun episode member =>
    Deed.executed?_of_frameless (frameless episode member)

/-- The settings under which the next frame is read are those that a request leaves behind when it
is handed to its handler. -/
theorem Course.settings_after {between earlier : List Episode} {first : Episode}
    {frame : List UInt8} {message : Message} {stretch : Stretch}
    (course : Course setup caller origin (between ++ first :: earlier) session)
    (handed : first.deed = .dispatched frame message stretch)
    (next : ∀ other ∈ between, other.deed.frame? = none) :
    session.context.settings = stretch.context.settings := by
  obtain ⟨middle, reached, onward⟩ := course.cut
  rw [onward.settings_eq next]
  cases reached with
  | @more _ _ _ deed _ _ move =>
    have handed : deed = .dispatched frame message stretch := handed
    rw [move.keeps.settings, handed]
    rfl

/-- A session that has executed a request with a digit and a checksum, and no other since, knows it
again and keeps its answer. -/
theorem Recalls.latest {between earlier : List Episode} {first : Episode} {frame : List UInt8}
    {message : Message} {stretch : Stretch}
    (recalls : Recalls (between ++ first :: earlier) session) (reading : session.isReading = true)
    (handed : first.deed = .dispatched frame message stretch)
    (next : ∀ other ∈ between, other.deed.frame? = none)
    (numbered : message.isNumbered = true) :
    session.sequence = Sequence.behind (some message) ∧
      ∃ bytes, session.lastAnswer = some bytes ∧
        Record.Answers (between ++ first :: earlier) message bytes := by
  have executed : Record.executed (between ++ first :: earlier) =
      message :: Record.executed earlier := by
    have split : Record.executed (between ++ first :: earlier) =
        Record.executed between ++ Record.executed (first :: earlier) := List.filterMap_append ..
    rw [split, executed_of_frameless next, Record.executed_cons, handed]
    rfl
  have answered := recalls.settles.answered reading
  rw [executed] at answered
  constructor
  · rw [recalls.sequence, answered, List.find?_cons, numbered]
  · exact recalls.retains message (by rw [answered]; rfl)

/-- What becomes of a login that is sent again at once, byte for byte. The login was new under error
detection, and no frame has been taken up since. It counts how the wire settings are that it left,
those of before or those in the profile of the library it found. If they still ask for error
detection and the frame can be read with their field delimiter, the kept answer is written again and
nobody is called. If they do not ask for it, the login is executed once more. If the frame cannot be
read any more, the terminal is asked to send it again, and nobody is called; with the same field
delimiter it can be read. -/
theorem login_sent_again {name : String} {peer : Net.SocketAddress} {port : Nat}
    {later between earlier : List Episode} {first again : Episode}
    (course : Course setup caller (start setup shared name peer port).session
      (later ++ again :: (between ++ first :: earlier)) session)
    {frame : List UInt8} {message : Message} {stretch : Stretch}
    (handed : first.deed = .dispatched frame message stretch)
    (login : message.command = some .login)
    (detects : first.before.settings.errorDetection = true)
    (next : ∀ other ∈ between, other.deed.frame? = none)
    (same : again.deed.frame? = some frame) :
    let wire := stretch.context.settings
    (wire = first.before.settings ∨ ∃ tenant profile, stretch.context.tenant = some tenant ∧
      first.before.shared.policy.profile? tenant = some profile ∧ wire = profile.session) ∧
    (∀ reread, Message.read frame (fieldDelimiter wire) = .ok reread →
      if wire.errorDetection then
        again.deed = .repeated frame reread ∧ again.after.calls = [] ∧
          ∃ bytes, Record.Answers (between ++ first :: earlier) message bytes ∧
            again.written = again.sent bytes
      else ∃ anew, again.deed = .dispatched frame reread anew) ∧
    (∀ fault, Message.read frame (fieldDelimiter wire) = .error fault →
      again.deed = .malformed frame fault ∧ again.after.calls = [] ∧
        again.written =
          again.sent (Frame.resendRequest wire.errorDetection (messageDelimiter wire))) ∧
    (fieldDelimiter wire = fieldDelimiter first.before.settings →
      Message.read frame (fieldDelimiter wire) = .ok message) := by
  intro wire
  obtain ⟨before, shared', reached, whence, reading, recalls, move⟩ :=
    course.takes (start_recalls setup shared name peer port) same
  have settings : (before.turn shared').settings = wire := reached.settings_after handed next
  obtain ⟨-, -, -, -, loginMove⟩ := reached.split
  rw [handed] at loginMove
  obtain ⟨reads, new, rfl⟩ := loginMove.of_dispatched
  rw [detects] at new
  have numbered := Sequence.classify_fresh new
  obtain ⟨digit, checksum, ofLogin, sumOfLogin⟩ := Message.isNumbered_iff.mp numbered
  obtain ⟨sequence, bytes, kept, answers⟩ := recalls.latest reading handed next numbered
  obtain ⟨_, deed, after⟩ := again
  subst whence
  refine ⟨Dispatch.start_settings, ?_, ?_, ?_⟩
  · intro reread rereads
    obtain ⟨sameCommand, sameDigit, sameSum⟩ := Message.read_alike reads rereads
    rw [login] at sameCommand
    have taken := move.of_request same (by rw [settings]; exact rereads) (by simp [sameCommand])
    have sequence : (before.turn shared').session.sequence = _ := sequence
    rw [settings, sequence] at taken
    cases detection : wire.errorDetection with
    | true =>
      rw [detection, Sequence.classify_behind_eq_repeated ofLogin sumOfLogin sameDigit sameSum]
        at taken
      obtain ⟨again, rfl⟩ := taken
      refine ⟨again, ?_, bytes, answers, ?_⟩
      · exact (Turn.repeatAnswer_calls _).trans rfl
      · exact Turn.repeatAnswer_written_eq ((before.turn shared').count .resend) kept
    | false =>
      have fresh : (Sequence.behind (some message)).classify reread false = .fresh := rfl
      rw [detection, fresh] at taken
      rcases taken with ⟨cause, -, refuses⟩ | anew
      · simp [sameCommand, Turn.refusal?, Command.isSessionControl] at refuses
      · exact anew
  · intro fault fails
    obtain ⟨malformed, rfl⟩ := move.of_fault same (by rw [settings]; exact fails)
    refine ⟨malformed, ?_, ?_⟩
    · exact (Turn.write_calls _ _).trans rfl
    · have written := Turn.write_written_eq ((before.turn shared').count (.malformed fault.kind))
        (Frame.resendRequest wire.errorDetection (messageDelimiter wire))
      rw [← settings] at written ⊢
      exact written
  · intro unchanged
    rw [unchanged]
    exact reads

/-- The refused login, sent again at once where error detection is still on. -/
theorem login_sent_again_nameless :
    (∃ bytes, Record.Answers [refusing true] nameless bytes ∧
      (repeating namelessFrame nameless
        (atUnplaced true Desk.served (refusing true).after.session)).written = [bytes]) ∧
    (repeating namelessFrame nameless
      (atUnplaced true Desk.served (refusing true).after.session)).after.calls = [] := by
  have course : Course (unplaced true) 0 (newcomer true)
      ([] ++ repeating namelessFrame nameless
        (atUnplaced true Desk.served (refusing true).after.session) :: ([] ++ refusing true :: []))
      _ :=
    .more (refusing_course true) (.repeated (by decide +kernel)
      (ok_of_toOption (by decide +kernel)) (by decide) (by decide +kernel))
  obtain ⟨-, reread, -, unchanged⟩ :=
    login_sent_again course rfl rfl (by decide +kernel) (by simp) rfl
  have again := reread nameless (unchanged (by decide +kernel))
  rw [if_pos (by decide +kernel)] at again
  obtain ⟨-, silent, bytes, answers, written⟩ := again
  have linked : (atUnplaced true Desk.served (refusing true).after.session).session.brokenLink =
      none := by decide +kernel
  rw [Episode.sent] at written
  exact ⟨⟨bytes, answers, written.trans (if_pos linked)⟩, silent⟩

/-! A login that takes over a profile, and comes to nothing. -/

def tryingFrame : List UInt8 := Frame.encode "9300CNu|COp|" (.sequenced 4) Frame.carriageReturn

def numberedLogin : Message :=
  Desk.login "u" "p" (some ⟨4, by decide⟩)
    (some (Frame.checksum (Text.bytesOf "9300CNu|COp|AY4AZ")))

/-- A login at a library with these wire settings. -/
def trying (wire : WireSettings) : Episode :=
  beginning true tryingFrame numberedLogin
    ((newcomer true).turn (Desk.shared { tenants := [(Desk.library, { session := wire })] }
      (.empty 8)))

/-- The platform does not accept the login. -/
def failing (wire : WireSettings) : Episode :=
  let start := (trying wire).before.shared.clock
  let turn := (trying wire).after.session.turn (trying wire).after.shared
  let stretch := Dispatch.loginEnded numberedLogin ⟨.login, Desk.account, "p"⟩
    ⟨0, Desk.account, 0, some (start + (unplaced true).loginTimeout)⟩ (.error .unauthorized)
    turn.shared turn.session.context
  { before := turn
    deed := .resumed numberedLogin (.login (.error .unauthorized)) stretch
    after := turn.proceed (unplaced true) numberedLogin (start + (unplaced true).requestTimeout)
      stretch }

theorem failing_course (wire : WireSettings) :
    Course (unplaced true) 0 (newcomer true) [failing wire, trying wire]
      (failing wire).after.session := by
  have reading : (newcomer true).isReading = true := by decide +kernel
  have read : Message.read tryingFrame (fieldDelimiter (newcomer true).context.settings) =
      .ok numberedLogin := ok_of_toOption (by decide +kernel)
  have fresh : (newcomer true).sequence.classify numberedLogin
      (newcomer true).context.settings.errorDetection = .fresh := by decide +kernel
  have tried : Course (unplaced true) 0 (newcomer true) [trying wire]
      (trying wire).after.session := .more .nil (.dispatched reading read (by decide) fresh rfl)
  have waits : (trying wire).after.session.activity =
      .handling numberedLogin (.token ⟨.login, Desk.account, "p"⟩)
        ((trying wire).before.shared.clock + (unplaced true).requestTimeout) := rfl
  exact .more tried (.resumed waits rfl)

def withoutDetection : WireSettings := { errorDetection := false }

def tryingAgain : Episode :=
  beginning true tryingFrame numberedLogin
    ((failing withoutDetection).after.session.turn (failing withoutDetection).after.shared)

def otherFields : WireSettings := { fieldDelimiter := '^' }

/-- The login is not readable as fields any more. -/
def failingToRead : Episode where
  before := (failing otherFields).after.session.turn (failing otherFields).after.shared
  deed := .malformed tryingFrame (.unterminated "CN")
  after :=
    ((failing otherFields).after.session.turn (failing otherFields).after.shared).rejectMalformed
      (.unterminated "CN")

/-- The same login goes to the platform twice where the profile turns error detection off, and the
terminal has to send it once more where the profile has another field delimiter. -/
theorem login_not_known_again :
    (Course (unplaced true) 0 (newcomer true)
        [tryingAgain, failing withoutDetection, trying withoutDetection]
        tryingAgain.after.session ∧
      (∃ stretch, (trying withoutDetection).deed =
        .dispatched tryingFrame numberedLogin stretch) ∧
      (failing withoutDetection).written = [Text.bytesOf "940\r"] ∧
      (∃ stretch, tryingAgain.deed = .dispatched tryingFrame numberedLogin stretch) ∧
      tryingAgain.after.calls.filterMap Effect.password? = ["p"] ∧ tryingAgain.written = []) ∧
    (Course (unplaced true) 0 (newcomer true)
        [failingToRead, failing otherFields, trying otherFields] failingToRead.after.session ∧
      (∃ stretch, (trying otherFields).deed = .dispatched tryingFrame numberedLogin stretch) ∧
      (failing otherFields).written =
        [Frame.encode "940" (.sequenced 4) Frame.carriageReturn] ∧
      failingToRead.deed.frame? = some tryingFrame ∧
      failingToRead.written = [Frame.resendRequest true Frame.carriageReturn]) := by
  have again : Course (unplaced true) 0 (newcomer true)
      [tryingAgain, failing withoutDetection, trying withoutDetection]
      tryingAgain.after.session :=
    .more (failing_course _) (.dispatched (by decide +kernel) (ok_of_toOption (by decide +kernel))
      (by decide) (by decide +kernel) (by decide +kernel))
  have unread : Message.read tryingFrame
      (fieldDelimiter (failing otherFields).after.session.context.settings) =
        .error (.unterminated "CN") := error_of_match (by decide +kernel)
  have garbled : Course (unplaced true) 0 (newcomer true)
      [failingToRead, failing otherFields, trying otherFields] failingToRead.after.session :=
    .more (failing_course _) (.malformed (by decide +kernel) unread)
  exact ⟨⟨again, ⟨_, rfl⟩, by decide +kernel, ⟨_, rfl⟩, by decide +kernel, by decide +kernel⟩,
    ⟨garbled, ⟨_, rfl⟩, by decide +kernel, rfl, by decide +kernel⟩⟩

end Session

end SelfCheck
