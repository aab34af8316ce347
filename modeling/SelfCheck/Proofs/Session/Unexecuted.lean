import SelfCheck.Proofs.Message.RoundTrip
import SelfCheck.Proofs.Session.Lines
import SelfCheck.Proofs.Session.Resend

/-! Frames that are not executed.

A frame that cannot be read, asks for the last answer, repeats the latest request or is out of order
is answered at once, with bytes that are known before. The session forgets that it was there, so
however many of them come, the next request finds everything as the last one left it.
-/

set_option autoImplicit false

namespace SelfCheck

namespace Frame

open Text (bytesOf)

/-- A body that makes its frame ask for a request again; it may bring the trailer along. -/
def Pleads (body : String) : Prop :=
  body = "96" ∨ ∃ sum, body = "96" ++ ("AZ" ++ hexWord sum)

/-- A frame asks for a request again only when its body spells this out. -/
theorem pleads_of_resendRequest {body : String} {trailer : Trailer} {delimiter other : UInt8}
    {errorDetection : Bool}
    (same : encode body trailer delimiter = resendRequest errorDetection other) :
    Pleads body := by
  have two : (bytesOf "96").length = 2 := by decide
  have four (word : UInt16) : (bytesOf (hexWord word)).length = 4 := (hexWord_bytes word).1
  have six (bytes : List UInt8) : (sealed bytes).length = bytes.length + 6 := by
    simp [sealed, checksumTag, four]
  have inner := (List.append_inj' same rfl).1
  have lengths := congrArg List.length inner
  -- A trailer is known by its length, but a bare body may pretend to have one.
  cases trailer with
  | none =>
    cases errorDetection with
    | false => exact .inl (Text.bytesOf_inj.mp inner)
    | true =>
      refine .inr ⟨checksum (bytesOf "96" ++ checksumTag), Text.bytesOf_inj.mp ?_⟩
      have tag : bytesOf "AZ" = checksumTag := by decide
      rw [Text.bytesOf_append, Text.bytesOf_append, tag, ← List.append_assoc]
      exact inner
  | checksum =>
    cases errorDetection with
    | false =>
      simp only [Trailer.append, Bool.false_eq_true, ↓reduceIte, six, two] at lengths
      omega
    | true =>
      have covered := (List.append_inj' inner (by rw [four, four])).1
      exact .inl (Text.bytesOf_inj.mp (List.append_inj' covered rfl).1)
  | sequenced number =>
    cases errorDetection with
    | false =>
      simp only [Trailer.append, Bool.false_eq_true, ↓reduceIte, six, two] at lengths
      omega
    | true =>
      simp only [Trailer.append, ↓reduceIte, six, two, List.length_append, sequenceTag,
        List.length_cons, List.length_nil] at lengths
      omega

end Frame

namespace Message

/-- The code of a request is one character or two, as it is two bytes. -/
theorem code_of_read {frame : List UInt8} {delimiter : UInt8} {message : Message}
    (reads : read frame delimiter = .ok message) :
    ∃ first rest, message.code.toList = first :: rest ∧ rest.length ≤ 1 := by
  obtain ⟨unwrapped, rest, stages⟩ := exists_stages reads
  have long := stages.long
  have code := stages.code
  generalize trimTerminators frame = raw at long code
  have short : (Text.decodeChars (raw.take 2)).length ≤ 2 :=
    Nat.le_trans (Text.length_decodeChars_le _) (List.length_take_le 2 raw)
  rw [code, Text.decode, String.toList_ofList]
  cases chars : Text.decodeChars (raw.take 2) with
  | nil =>
    cases raw with
    | nil => simp at long
    | cons b rest => exact (Text.decodeChars_cons_ne_nil chars).elim
  | cons first rest =>
    rw [chars, List.length_cons] at short
    exact ⟨first, rest, rfl, by omega⟩

end Message

namespace Turn

/-! No answer is mistaken for a request to send something again. -/

theorem delimited_append (settings : WireSettings) (front back : String) :
    delimited settings (front ++ back) = delimited settings front ++ delimited settings back := by
  simp [delimited]

theorem delimited_responseCode (settings : WireSettings) {command : Command} {code : String}
    (answers : command.responseCode? = some code) : delimited settings code = code := by
  cases command <;> cases answers <;> rfl

/-- What begins with the code of an answer asks for nothing. -/
theorem not_pleads_of_responseCode {command : Command} {code : String}
    (answers : command.responseCode? = some code) (back : String) :
    ¬Frame.Pleads (code ++ back) := by
  have apart (rest : String) : code ++ back ≠ "96" ++ rest := by
    intro same
    have chars := congrArg String.toList same
    cases command <;> cases answers <;> simp at chars
  rintro (bare | ⟨sum, sealed⟩)
  · exact apart "" bare
  · exact apart _ sealed

/-- A failure is told apart by the tag behind its code, even where the code is the same. -/
theorem not_pleads_of_failed {code : String} {first : Char} {rest : List Char}
    (spelled : code.toList = first :: rest) (short : rest.length ≤ 1) (back : String) :
    ¬Frame.Pleads (code ++ ("AF" ++ back)) := by
  rintro (bare | ⟨sum, sealed⟩)
  · have chars := congrArg String.toList bare
    rw [String.toList_append, spelled] at chars
    match rest, short with
    | [], _ | [second], _ => simp at chars
  · have chars := congrArg String.toList sealed
    rw [String.toList_append, spelled] at chars
    match rest, short with
    | [], _ | [second], _ => simp at chars

theorem render_bundled_not_pleads (settings : WireSettings) {command : Command} {model : Json}
    {body : String} (renders : Templates.bundled.render command model = .ok body) :
    ¬Frame.Pleads (delimited settings body) := by
  obtain ⟨code, back, answers, rfl⟩ := Templates.render_bundled_head renders
  rw [delimited_append, delimited_responseCode settings answers]
  exact not_pleads_of_responseCode answers _

theorem renderFailure_bundled_not_pleads (settings : WireSettings) (command : Option Command)
    {code : String} {first : Char} {rest : List Char} (spelled : code.toList = first :: rest)
    (short : rest.length ≤ 1) {text body : String}
    (renders : Templates.bundled.renderFailure command code text = .ok body) :
    ¬Frame.Pleads (delimited settings body) := by
  rw [Templates.renderFailure_bundled_eq] at renders
  cases renders
  have tag : delimited settings "AF" = "AF" := rfl
  rw [delimited_append, delimited_append, tag]
  unfold Templates.answerCode
  cases answers : command.bind Command.responseCode? with
  | some own =>
    obtain ⟨command, -, answers⟩ := Option.bind_eq_some_iff.mp answers
    rw [Option.getD_some, delimited_responseCode settings answers]
    exact not_pleads_of_responseCode answers _
  | none =>
    have chars : (delimited settings code).toList = (first :: rest).map fun c =>
        if c = '|' then Char.ofNat (Session.fieldDelimiter settings).toNat else c := by
      rw [delimited, String.toList_ofList, spelled]
    rw [List.map_cons] at chars
    exact not_pleads_of_failed chars (by rwa [List.length_map]) _

/-- No bundled template spells out what asks for a request again. -/
theorem rendered_bundled_not_pleads (settings : WireSettings) {message : Message}
    {outcome : Outcome} {first : Char} {rest : List Char}
    (spelled : message.code.toList = first :: rest) (short : rest.length ≤ 1) :
    ¬Frame.Pleads (delimited settings
      ((rendered Templates.bundled message outcome).toOption.getD "")) := by
  cases renders : rendered Templates.bundled message outcome with
  | error fault =>
    have nothing : delimited settings
        ((Except.error fault : Except RenderError String).toOption.getD "") = "" := rfl
    rw [nothing]
    rintro (bare | ⟨sum, sealed⟩)
    · exact absurd bare (by decide)
    · have chars := congrArg String.toList sealed
      simp at chars
  | ok body =>
    cases outcome with
    | success command model => exact render_bundled_not_pleads settings renders
    | failure command failure =>
      simp only [rendered] at renders
      split at renders
      · exact render_bundled_not_pleads settings renders
      · exact renderFailure_bundled_not_pleads settings _ spelled short renders

/-! What an answer at once leaves behind. -/

/-- A turn goes on with nothing but some bytes written, whatever it counts. -/
structure Tells (turn after : Turn) (bytes : List UInt8) : Prop where
  session : after.session = turn.session
  shared : after.shared = turn.shared
  calls : after.calls = turn.calls
  written : after.written = turn.written ++ [bytes]

variable {setup : Setup} {caller : Nat} {turn after : Turn} {deed : Deed}

@[simp] theorem count_written (turn : Turn) (tally : Tally) :
    (turn.count tally).written = turn.written := by
  simp [written, count, Effect.written?]

theorem write_tells (turn : Turn) (linked : turn.session.brokenLink = none) (bytes : List UInt8) :
    turn.Tells (turn.write bytes) bytes where
  session := by simp [write, linked]
  shared := write_shared turn bytes
  calls := write_calls turn bytes
  written := by rw [write_written_eq, if_pos linked]

theorem Tells.counted {tally : Tally} {bytes : List UInt8}
    (tells : (turn.count tally).Tells after bytes) : turn.Tells after bytes where
  session := tells.session
  shared := tells.shared
  calls := tells.calls.trans (count_calls turn tally)
  written := by rw [tells.written, count_written]

end Turn

namespace Session

/-- The bytes with which a session asks for a request again. -/
def plea (session : Session) : List UInt8 :=
  Frame.resendRequest session.context.settings.errorDetection
    (messageDelimiter session.context.settings)

/-- The bytes of the last answer, or else those that ask for a request again. -/
def lastWords (session : Session) : List UInt8 := session.lastAnswer.getD session.plea

/-- The request in a frame, if it is executed as a new one. -/
def newRequest? (session : Session) (frame : List UInt8) : Option Message :=
  match Message.read frame (fieldDelimiter session.context.settings) with
  | .error _ => none
  | .ok message =>
    if message.command ≠ some .requestAcsResend ∧
        session.sequence.classify message session.context.settings.errorDetection = .fresh then
      some message
    else none

theorem newRequest?_eq_some {session : Session} {frame : List UInt8} {message : Message}
    (new : session.newRequest? frame = some message) :
    Message.read frame (fieldDelimiter session.context.settings) = .ok message ∧
      message.command ≠ some .requestAcsResend ∧
      session.sequence.classify message session.context.settings.errorDetection = .fresh := by
  unfold newRequest? at new
  cases reads : Message.read frame (fieldDelimiter session.context.settings) with
  | error fault => simp [reads] at new
  | ok other =>
    simp only [reads, Option.ite_none_right_eq_some, Option.some.injEq] at new
    obtain ⟨⟨named, fresh⟩, rfl⟩ := new
    exact ⟨rfl, named, fresh⟩

/-- What a frame that is not executed gets: the last words if it asks for them or repeats the latest
request, and the plea if it cannot be read or is out of order. -/
def reply (session : Session) (frame : List UInt8) : List UInt8 :=
  match Message.read frame (fieldDelimiter session.context.settings) with
  | .error _ => session.plea
  | .ok message =>
    if message.command = some .requestAcsResend ∨
        session.sequence.classify message session.context.settings.errorDetection = .repeated then
      session.lastWords
    else session.plea

end Session

namespace Turn

variable {setup : Setup} {caller : Nat} {turn after : Turn} {deed : Deed}

theorem askAgain_tells (turn : Turn) (linked : turn.session.brokenLink = none) :
    turn.Tells turn.askAgain turn.session.plea :=
  write_tells turn linked _

theorem repeatAnswer_tells (turn : Turn) (linked : turn.session.brokenLink = none) :
    turn.Tells turn.repeatAnswer turn.session.lastWords := by
  unfold repeatAnswer Session.lastWords
  cases turn.session.lastAnswer with
  | none => exact askAgain_tells turn linked
  | some bytes => exact write_tells turn linked bytes

theorem rejectMalformed_tells (turn : Turn) (linked : turn.session.brokenLink = none)
    (fault : FrameError) : turn.Tells (turn.rejectMalformed fault) turn.session.plea :=
  .counted (askAgain_tells (turn.count _) linked)

/-- A frame that is not executed. -/
theorem handleFrame_tells (turn : Turn) (linked : turn.session.brokenLink = none)
    {frame : List UInt8} (old : turn.session.newRequest? frame = none) :
    turn.Tells (turn.handleFrame setup caller frame) (turn.session.reply frame) := by
  unfold handleFrame Session.reply
  unfold Session.newRequest? at old
  have delimiter : turn.settings = turn.session.context.settings := rfl
  rw [delimiter]
  cases reads : Message.read frame (Session.fieldDelimiter turn.session.context.settings) with
  | error fault => exact rejectMalformed_tells turn linked fault
  | ok message =>
    simp only [reads] at old ⊢
    unfold receive
    by_cases asks : message.command = some .requestAcsResend
    · simpa [asks] using repeatAnswer_tells turn linked
    · rw [if_neg asks, delimiter]
      cases verdict : turn.session.sequence.classify message
          turn.session.context.settings.errorDetection with
      | fresh => simp [asks, verdict] at old
      | repeated => simpa using Tells.counted (repeatAnswer_tells (turn.count _) linked)
      | invalid => simpa [asks] using Tells.counted (askAgain_tells (turn.count _) linked)

/-- What is too large for a frame is given up with everything behind it. -/
theorem drain_tells (turn : Turn) (linked : turn.session.brokenLink = none)
    {bytes rest : List UInt8} {length : Nat}
    (large : Frame.split (Session.messageDelimiter turn.settings) setup.maxFrame bytes =
      .tooLarge length rest) :
    (turn.withBuffer []).Tells (turn.drain setup caller bytes) turn.session.plea := by
  rw [drain]
  split
  · next taken => simp [large] at taken
  · exact rejectMalformed_tells (turn.withBuffer []) linked _
  · next taken => simp [large] at taken

/-- A new request is executed. -/
theorem handleFrame_of_newRequest? (setup : Setup) (caller : Nat) {frame : List UInt8}
    {message : Message} (new : turn.session.newRequest? frame = some message) :
    message.command ≠ some .requestAcsResend ∧
      turn.handleFrame setup caller frame = turn.execute setup caller message := by
  obtain ⟨reads, named, fresh⟩ := Session.newRequest?_eq_some new
  have delimiter : turn.settings = turn.session.context.settings := rfl
  refine ⟨named, ?_⟩
  unfold handleFrame
  rw [delimiter, reads]
  simp only [receive, if_neg named, delimiter, fresh]

theorem Move.executed?_eq (move : Move setup caller turn deed after) {frame : List UInt8}
    (takes : deed.frame? = some frame) :
    deed.executed? = turn.session.newRequest? frame := by
  have delimiter : turn.settings = turn.session.context.settings := rfl
  unfold Session.newRequest?
  rw [← delimiter]
  cases move with
  | malformed _ fails =>
    cases takes
    simp [fails, Deed.executed?]
  | asked _ reads asks =>
    cases takes
    simp [reads, asks, Deed.executed?]
  | repeated _ reads request verdict =>
    cases takes
    simp [reads, verdict, Deed.executed?]
  | misplaced _ reads request verdict =>
    cases takes
    simp [reads, verdict, Deed.executed?]
  | refused _ reads request verdict =>
    cases takes
    simp [reads, request, verdict, Deed.executed?]
  | dispatched _ reads request verdict =>
    cases takes
    simp [reads, request, verdict, Deed.executed?]
  | _ => cases takes

/-- A move with a frame that is not executed. -/
theorem Move.tells (move : Move setup caller turn deed after)
    (linked : turn.session.brokenLink = none) {frame : List UInt8}
    (takes : deed.frame? = some frame) (old : deed.executed? = none) :
    turn.Tells after (turn.session.reply frame) := by
  obtain ⟨deed', takes', move'⟩ := move_handleFrame setup caller (move.reading takes) frame
  obtain ⟨-, rfl⟩ := move.unique move' takes takes'
  exact handleFrame_tells turn linked ((move.executed?_eq takes).symm.trans old)

/-! The last answer. -/

theorem answer_lastAnswer (turn : Turn) (message : Message) (outcome : Outcome) :
    (turn.answer setup message outcome).session.lastAnswer =
      some (turn.response setup message outcome) := by
  cases link : turn.session.brokenLink with
  | none =>
    rw [answer_linked link]
    split <;> rfl
  | some text => rw [answer_severed link]

/-- Whoever executes a request has read it. -/
theorem Move.read_of_executed (move : Move setup caller turn deed after) {message : Message}
    (executes : deed.executed? = some message) :
    ∃ frame, Message.read frame (Session.fieldDelimiter turn.settings) = .ok message := by
  cases move with
  | refused _ reads =>
    cases executes
    exact ⟨_, reads⟩
  | dispatched _ reads =>
    cases executes
    exact ⟨_, reads⟩
  | _ => cases executes

/-- A session with nothing to do that gets nothing to execute does nothing but answer at once. -/
theorem Move.idle (move : Move setup caller turn deed after)
    (rests : turn.session.pending? = none) (old : deed.executed? = none) :
    deed.outcome? = none ∧ deed.stretch? = none ∧ after.session.pending? = none := by
  have balance := move.balance
  rw [rests, old] at balance
  obtain ⟨idle, silent⟩ := List.append_eq_nil_iff.mp balance.symm
  refine ⟨by simpa using silent, ?_, by simpa using idle⟩
  cases move with
  | refused | dispatched => cases old
  | resumed busy =>
    rw [Session.pending?_of_handling busy] at rests
    cases rests
  | _ => rfl

end Turn

namespace Session

/-- How a session stands that has executed nothing since. -/
structure Lingers (session last : Session) : Prop where
  context : last.ending? = none → last.context = session.context
  settings : last.context.settings = session.context.settings
  sequence : last.sequence = session.sequence
  lastAnswer : last.lastAnswer = session.lastAnswer
  rests : last.pending? = none

variable {setup : Setup} {caller : Nat} {origin session last : Session} {past : List Episode}
  {shared : Shared} {deed : Deed} {turn : Turn}

theorem Lingers.reply_eq (lingers : session.Lingers last) (frame : List UInt8) :
    last.reply frame = session.reply frame := by
  unfold reply lastWords plea
  rw [lingers.settings, lingers.sequence, lingers.lastAnswer]

theorem Lingers.move (lingers : session.Lingers last)
    (move : Turn.Move setup caller (last.turn shared) deed turn) (old : deed.executed? = none) :
    session.Lingers turn.session := by
  obtain ⟨silent, unhandled, rests⟩ := move.idle lingers.rests old
  obtain ⟨sequence, lastAnswer⟩ := move.remembers silent
  have own : deed.contextFrom last.context = last.context := by
    rw [Deed.contextFrom, unhandled]
    rfl
  refine ⟨?_, ?_, sequence.trans lingers.sequence, lastAnswer.trans lingers.lastAnswer, rests⟩
  · intro alive
    exact ((move.context_eq alive).trans own).trans (lingers.context (move.alive alive))
  · exact (move.keeps.settings.trans (congrArg Context.settings own)).trans lingers.settings

theorem Course.lingers (rests : session.pending? = none)
    (course : Course setup caller session past last)
    (old : ∀ episode ∈ past, episode.deed.executed? = none) : session.Lingers last := by
  induction course with
  | nil => exact ⟨fun _ => rfl, rfl, rfl, rfl, rests⟩
  | more _ move ih =>
    obtain ⟨own, before⟩ := List.forall_mem_cons.mp old
    exact (ih before).move move own

theorem Course.linked (course : Course setup caller origin past session)
    (linked : session.brokenLink = none) : origin.brokenLink = none := by
  induction course with
  | nil => exact linked
  | more _ move ih => exact ih (move.linked linked)

/-- However many frames come that are not executed, each gets what it would have got at first. -/
theorem Course.tells (rests : session.pending? = none)
    (course : Course setup caller session past last) (linked : last.brokenLink = none)
    (old : ∀ episode ∈ past, episode.deed.executed? = none) {episode : Episode}
    (member : episode ∈ past) {frame : List UInt8} (takes : episode.deed.frame? = some frame) :
    episode.before.Tells episode.after (session.reply frame) := by
  obtain ⟨later, earlier, rfl⟩ := List.append_of_mem member
  obtain ⟨middle, reached, onward⟩ := course.cut
  have working := onward.linked linked
  cases reached with
  | more reached move =>
    have lingers := reached.lingers rests fun other before =>
      old other (List.mem_append_right _ (List.mem_cons_of_mem _ before))
    have tells := move.tells (move.linked working) takes (old _ member)
    rwa [← lingers.reply_eq]

theorem reply_of_asked {frame : List UInt8} {message : Message}
    (reads : Message.read frame (fieldDelimiter session.context.settings) = .ok message)
    (asks : message.command = some .requestAcsResend) :
    session.reply frame = session.lastWords := by
  simp [reply, reads, asks]

theorem Course.stored (fresh : origin.lastAnswer = none)
    (course : Course setup caller origin past session) {bytes : List UInt8}
    (kept : session.lastAnswer = some bytes) :
    ∃ (base : Turn) (message : Message) (outcome : Outcome),
      message ∈ Record.answered past ∧ bytes = base.response setup message outcome := by
  induction course with
  | nil =>
    rw [fresh] at kept
    cases kept
  | @more past _ _ deed _ _ move ih =>
    rw [Record.answered_cons]
    cases done : deed.outcome? with
    | none =>
      rw [(move.remembers done).2] at kept
      obtain ⟨base, message, outcome, member, same⟩ := ih kept
      exact ⟨base, message, outcome, List.mem_append_right _ member, same⟩
    | some told =>
      obtain ⟨message, outcome⟩ := told
      obtain ⟨base, rfl, -⟩ := move.exists_answer done
      rw [Turn.answer_lastAnswer] at kept
      cases kept
      exact ⟨base, message, outcome, by simp, rfl⟩

/-- Whatever is answered has been read. -/
theorem Course.read_of_answered (fresh : origin.Settles [])
    (course : Course setup caller origin past session) {message : Message}
    (member : message ∈ Record.answered past) :
    ∃ frame delimiter, Message.read frame delimiter = .ok message := by
  have executed : message ∈ Record.executed past := by
    rw [course.settles fresh]
    exact List.mem_append_right _ member
  obtain ⟨episode, inside, executes⟩ := List.mem_filterMap.mp executed
  obtain ⟨-, -, -, -, -, move⟩ := course.split_of_mem inside
  obtain ⟨frame, reads⟩ := move.read_of_executed executes
  exact ⟨frame, _, reads⟩

/-- With the bundled templates nothing that is kept asks for a request again. -/
theorem Course.lastAnswer_ne (bundled : setup.templates = Templates.bundled)
    (unanswered : origin.lastAnswer = none) (fresh : origin.Settles [])
    (course : Course setup caller origin past session) {bytes : List UInt8}
    (kept : session.lastAnswer = some bytes) (errorDetection : Bool) (delimiter : UInt8) :
    bytes ≠ Frame.resendRequest errorDetection delimiter := by
  obtain ⟨base, message, outcome, member, rfl⟩ := course.stored unanswered kept
  obtain ⟨frame, _, reads⟩ := course.read_of_answered fresh member
  obtain ⟨first, rest, spelled, short⟩ := Message.code_of_read reads
  intro same
  rw [Turn.response, Turn.answerBytes, bundled] at same
  exact Turn.rendered_bundled_not_pleads _ spelled short (Frame.pleads_of_resendRequest same)

/-- A frame that is not executed leaves no trace. At any time of a session, over a link that works:
there is a last answer just when a request has been answered, it is the answer to the latest one,
and with the bundled templates it never asks for a request again. A frame that cannot be read, asks
for the last answer, repeats the latest request or is out of order changes nothing in the session or
in what sessions share, calls nobody, and gets its reply and nothing else; what is too large for a
frame costs the bytes behind it besides. However many such frames come one after the other, whatever
comes in between but a new request, each gets what it would have got at first: whoever asks for the
last answer gets the same bytes every time. -/
theorem unexecuted_frame_leaves_no_trace {name : String} {peer : Net.SocketAddress} {port : Nat}
    (course : Course setup caller (start setup shared name peer port).session past session)
    (reading : session.isReading = true) (linked : session.brokenLink = none) :
    (session.lastAnswer = none ↔ Record.answered past = []) ∧
    (∀ bytes, session.lastAnswer = some bytes →
      (∃ request, Record.Answers past request bytes) ∧
      (setup.templates = Templates.bundled → ∀ errorDetection delimiter,
        bytes ≠ Frame.resendRequest errorDetection delimiter)) ∧
    (∀ now frame, session.newRequest? frame = none →
      (session.turn now).Tells ((session.turn now).handleFrame setup caller frame)
        (session.reply frame)) ∧
    (∀ now bytes length rest,
      Frame.split (messageDelimiter session.context.settings) setup.maxFrame bytes =
        .tooLarge length rest →
      ((session.turn now).withBuffer []).Tells ((session.turn now).drain setup caller bytes)
        session.plea) ∧
    ∀ later last, Course setup caller session later last → last.brokenLink = none →
      (∀ episode ∈ later, episode.deed.executed? = none) →
      session.Lingers last ∧
      ∀ episode ∈ later, ∀ frame, episode.deed.frame? = some frame →
        episode.before.Tells episode.after (session.reply frame) ∧
        ∀ message, Message.read frame (fieldDelimiter session.context.settings) = .ok message →
          message.command = some .requestAcsResend →
          episode.before.Tells episode.after session.lastWords := by
  obtain ⟨-, -, -, unanswered, -⟩ := start_session setup shared name peer port
  have fresh := start_recalls setup shared name peer port
  have recalls := course.recalls fresh (ending?_of_isReading reading)
  have rests := pending?_of_isReading reading
  refine ⟨⟨?_, ?_⟩, ?_, ?_, ?_, ?_⟩
  · intro none
    cases answered : Record.answered past with
    | nil => rfl
    | cons request _ =>
      obtain ⟨bytes, kept, -⟩ := recalls.retains request (by rw [answered]; rfl)
      rw [none] at kept
      cases kept
  · intro silent
    cases kept : session.lastAnswer with
    | none => rfl
    | some bytes =>
      obtain ⟨-, message, -, member, -⟩ := course.stored unanswered kept
      rw [silent] at member
      cases member
  · intro bytes kept
    refine ⟨?_, fun bundled => course.lastAnswer_ne bundled unanswered fresh.settles kept⟩
    obtain ⟨-, message, -, member, -⟩ := course.stored unanswered kept
    obtain ⟨request, first⟩ : ∃ request, (Record.answered past).head? = some request := by
      cases answered : Record.answered past with
      | nil =>
        rw [answered] at member
        cases member
      | cons request _ => exact ⟨request, rfl⟩
    obtain ⟨same, own, answers⟩ := recalls.retains request first
    rw [kept] at own
    cases own
    exact ⟨request, answers⟩
  · intro now frame old
    exact Turn.handleFrame_tells (session.turn now) linked old
  · intro now bytes length rest large
    exact Turn.drain_tells (session.turn now) linked large
  · intro later last onward working old
    refine ⟨onward.lingers rests old, fun episode member frame takes => ?_⟩
    have tells := onward.tells rests working old member takes
    refine ⟨tells, fun message reads asks => ?_⟩
    rwa [reply_of_asked reads asks] at tells

/-! The answer to a refused login is asked for twice. -/

def reminderFrame : List UInt8 := Frame.encode "97" .checksum Frame.carriageReturn

def reminder : Message where
  code := "97"
  command := some .requestAcsResend
  fixed := []
  tagged := []
  sequence := none
  checksum := some (Frame.checksum (Text.bytesOf "97AZ"))

def reminded (turn : Turn) : Episode where
  before := turn
  deed := .asked reminderFrame reminder
  after := turn.repeatAnswer

/-- The refused login's session, asked at a moment when there is a token, and at one without. -/
def firstReminded : Episode := reminded (atUnplaced true Desk.served (refusing true).after.session)

def secondReminded : Episode := reminded (atUnplaced true (.empty 8) firstReminded.after.session)

theorem reminded_course :
    Course (unplaced true) 0 (refusing true).after.session [secondReminded, firstReminded]
      secondReminded.after.session := by
  have first : Course (unplaced true) 0 (refusing true).after.session [firstReminded]
      firstReminded.after.session :=
    .more .nil (.asked (by decide +kernel) (ok_of_toOption (by decide +kernel)) rfl)
  exact .more first (.asked (by decide +kernel) (ok_of_toOption (by decide +kernel)) rfl)

theorem unexecuted_frame_leaves_no_trace_refused :
    let session := (refusing true).after.session
    let answer := Frame.encode "940" (.sequenced 4) Frame.carriageReturn
    session.lastAnswer = some answer ∧
      (∀ errorDetection delimiter, answer ≠ Frame.resendRequest errorDetection delimiter) ∧
      session.Lingers secondReminded.after.session ∧
      firstReminded.before.Tells firstReminded.after answer ∧
      secondReminded.before.Tells secondReminded.after answer := by
  have kept : (refusing true).after.session.lastAnswer =
      some (Frame.encode "940" (.sequenced 4) Frame.carriageReturn) := by decide +kernel
  obtain ⟨-, stored, -, -, run⟩ := unexecuted_frame_leaves_no_trace (refusing_course true)
    (by decide +kernel) (by decide +kernel)
  obtain ⟨lingers, tells⟩ := run _ _ reminded_course (by decide +kernel)
    (by simp [firstReminded, secondReminded, reminded, Deed.executed?])
  have reads : Message.read reminderFrame
      (fieldDelimiter (refusing true).after.session.context.settings) = .ok reminder :=
    ok_of_toOption (by decide +kernel)
  have first := (tells firstReminded (by simp) reminderFrame rfl).2 reminder reads rfl
  have second := (tells secondReminded (by simp) reminderFrame rfl).2 reminder reads rfl
  rw [lastWords, kept, Option.getD_some] at first second
  exact ⟨kept, (stored _ kept).2 rfl, lingers, first, second⟩

end Session

end SelfCheck
