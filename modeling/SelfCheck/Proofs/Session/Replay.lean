import SelfCheck.Proofs.Message.Stages
import SelfCheck.Proofs.Session.Gate

/-! Every request once: which frames are executed, and what a repeated request gets.

On a wire with error detection a request is due when its digit follows that of the request before
it. A due request is executed and answered; the answer is kept, and whoever sends the same digit and
checksum again gets the same bytes.
-/

set_option autoImplicit false

namespace SelfCheck

namespace Message

/-- Whether a frame ends in a checksum that is right. -/
def isSealed (frame : List UInt8) : Bool :=
  let raw := trimTerminators frame
  hasChecksum raw &&
    Frame.verifies (raw.take (raw.length - 4)) (Text.decode (raw.drop (raw.length - 4)))

/-- Whether the digit of a message follows that of the latest one; the first may have any. -/
def follows (message : Message) : Option Message → Bool
  | none => message.sequence.isSome
  | some latest =>
    message.sequence.any fun digit => latest.sequence.any fun before =>
      digit.val = (before.val + 1) % 10

/-- The request in a frame, if it is due after the latest one. -/
def due? (delimiter : UInt8) (latest : Option Message) (frame : List UInt8) : Option Message :=
  match read frame delimiter with
  | .error _ => none
  | .ok message =>
    if message.command ≠ some .requestAcsResend && isSealed frame && message.follows latest then
      some message
    else none

/-- The requests among some frames that are due, the latest first. -/
def due (delimiter : UInt8) : List (List UInt8) → List Message
  | [] => []
  | frame :: earlier =>
    (due? delimiter (due delimiter earlier).head? frame).toList ++ due delimiter earlier

theorem takeSequence_checksum {checksum : UInt16} {body : List UInt8} {unwrapped : Unwrapped}
    (taken : takeSequence checksum body = .ok unwrapped) : unwrapped.checksum = some checksum := by
  obtain rfl | ⟨front, b, -, -, -, rfl⟩ := takeSequence_eq_ok taken
  · rfl
  · rfl

/-- A message has a checksum just when its frame has got one, and then it is the right one. -/
theorem isSealed_eq {frame : List UInt8} {delimiter : UInt8} {message : Message}
    (reads : read frame delimiter = .ok message) :
    isSealed frame = message.checksum.isSome := by
  obtain ⟨unwrapped, rest, stages⟩ := exists_stages reads
  have opened := stages.opened
  rw [stages.checksum]
  unfold isSealed
  unfold unwrap at opened
  cases tagged : hasChecksum (trimTerminators frame) with
  | false =>
    simp only [tagged, Bool.false_eq_true, ↓reduceIte] at opened
    cases opened
    simp [tagged]
  | true =>
    simp only [tagged, ↓reduceIte] at opened
    split at opened
    · next right => simp [tagged, right, takeSequence_checksum opened]
    · cases opened

end Message

namespace Sequence

/-- What is remembered after the latest request. -/
def behind : Option Message → Sequence
  | none => {}
  | some latest => ({} : Sequence).advance latest

theorem advance_eq_behind (sequence : Sequence) {message : Message} {digit : Fin 10}
    {checksum : UInt16} (numbered : message.sequence = some digit)
    (summed : message.checksum = some checksum) :
    sequence.advance message = behind (some message) := by
  simp [behind, advance, numbered, summed]

theorem classify_behind_eq_repeated {latest message : Message} {digit : Fin 10}
    {checksum : UInt16} (numbered : latest.sequence = some digit)
    (summed : latest.checksum = some checksum) (sameDigit : message.sequence = latest.sequence)
    (sameSum : message.checksum = latest.checksum) :
    (behind (some latest)).classify message true = .repeated := by
  simp [behind, advance, classify, numbered, summed, sameDigit, sameSum]

/-- A digit is not its own successor: a request that is new is not a repeated one. -/
theorem classify_behind_eq_fresh_iff {latest : Option Message}
    (complete : ∀ other ∈ latest, other.sequence.isSome = true ∧ other.checksum.isSome = true)
    (message : Message) :
    (behind latest).classify message true = .fresh ↔
      message.checksum.isSome = true ∧ message.follows latest = true := by
  -- So a request with the next digit is not the latest one again, whatever its checksum.
  have cyclic : ∀ digit : Fin 10, digit ≠ digit + 1 := by decide
  cases latest with
  | none =>
    cases numbered : message.sequence <;> cases summed : message.checksum <;>
      simp [behind, classify, Message.follows, numbered, summed]
  | some other =>
    obtain ⟨digit, checksum⟩ := complete other rfl
    obtain ⟨digit, ofOther⟩ := Option.isSome_iff_exists.mp digit
    obtain ⟨checksum, sumOfOther⟩ := Option.isSome_iff_exists.mp checksum
    cases numbered : message.sequence with
    | none => simp [classify, Message.follows, numbered]
    | some own =>
      cases summed : message.checksum with
      | none => simp [classify, numbered, summed]
      | some ownSum =>
        have verdict : (behind (some other)).classify message true =
            if digit = own ∧ checksum = ownSum then .repeated
            else if digit + 1 = own then .fresh else .invalid := by
          simp [behind, advance, classify, ofOther, sumOfOther, numbered, summed]
        have follows : message.follows (some other) = decide (own = digit + 1) := by
          simp [Message.follows, numbered, ofOther, Fin.ext_iff, Fin.val_add]
        rw [verdict, follows]
        by_cases next : own = digit + 1
        · have new : ¬(digit = own ∧ checksum = ownSum) := by
            rintro ⟨same, -⟩
            exact cyclic digit (same.trans next)
          rw [if_neg new, if_pos next.symm]
          simp [next]
        · have notNext : ¬digit + 1 = own := fun same => next same.symm
          rw [if_neg notNext]
          split <;> simp [next]

end Sequence

/-- The request that is executed as a new one. -/
def Deed.executed? : Deed → Option Message
  | .refused _ message _ | .dispatched _ message _ => some message
  | _ => none

theorem Deed.executed?_of_frameless {deed : Deed} (frameless : deed.frame? = none) :
    deed.executed? = none := by
  cases deed <;> first | rfl | cases frameless

/-- What is written in an episode. -/
def Episode.written (episode : Episode) : List (List UInt8) :=
  episode.after.effects.filterMap Effect.written?

namespace Record

/-- The frames that are taken up, the latest first. -/
def taken (past : List Episode) : List (List UInt8) := past.filterMap (·.deed.frame?)

/-- The requests that are executed, the latest first. -/
def executed (past : List Episode) : List Message := past.filterMap (·.deed.executed?)

/-- The requests that are answered, the latest first. -/
def answered (past : List Episode) : List Message :=
  past.filterMap fun episode => episode.deed.outcome?.map Prod.fst

/-- The latest answer on record is one to a request, and consists of some bytes. -/
def Answers (past : List Episode) (request : Message) (bytes : List UInt8) : Prop :=
  ∃ middle answer before outcome, past = middle ++ answer :: before ∧
    (∀ other ∈ middle, other.deed.outcome? = none) ∧
    answer.deed.outcome? = some (request, outcome) ∧ answer.written = [bytes]

end Record

namespace Turn

variable {setup : Setup} {caller : Nat} {turn after : Turn} {deed : Deed}

/-! What a session does leaves its link as it is. -/

theorem write_brokenLink (turn : Turn) (bytes : List UInt8) :
    (turn.write bytes).session.brokenLink = turn.session.brokenLink := by
  unfold write
  split
  · rfl
  · rfl

theorem repeatAnswer_brokenLink (turn : Turn) :
    turn.repeatAnswer.session.brokenLink = turn.session.brokenLink := by
  unfold repeatAnswer
  split
  · exact write_brokenLink turn _
  · exact write_brokenLink turn _

theorem answer_brokenLink (turn : Turn) (message : Message) (outcome : Outcome) :
    (turn.answer setup message outcome).session.brokenLink = turn.session.brokenLink := by
  cases link : turn.session.brokenLink with
  | none =>
    rw [answer_linked link]
    split
    · exact link
    · exact link
  | some text =>
    rw [answer_severed link]
    exact link

theorem proceed_brokenLink (turn : Turn) (message : Message) (deadline : Nat)
    (stretch : Stretch) :
    (turn.proceed setup message deadline stretch).session.brokenLink =
      turn.session.brokenLink := by
  cases stage : stretch.stage with
  | waiting wait => rw [proceed_of_waiting stage]
  | finished result => rw [proceed_of_finished stage, answer_brokenLink]

theorem conclude_brokenLink (turn : Turn) (ending : Ending) :
    (turn.conclude ending).session.brokenLink = turn.session.brokenLink := by
  unfold conclude
  cases ending.tally? with
  | none => rfl
  | some tally => rfl

/-- No move repairs a link. -/
theorem Move.linked (move : Move setup caller turn deed after)
    (linked : after.session.brokenLink = none) : turn.session.brokenLink = none := by
  cases move with
  | malformed => exact (write_brokenLink (turn.count _) _).symm.trans linked
  | asked => exact (repeatAnswer_brokenLink turn).symm.trans linked
  | repeated => exact (repeatAnswer_brokenLink (turn.count _)).symm.trans linked
  | misplaced => exact (write_brokenLink (turn.count _) _).symm.trans linked
  | refused => exact (answer_brokenLink turn _ _).symm.trans linked
  | dispatched => exact (proceed_brokenLink turn _ _ _).symm.trans linked
  | resumed => exact (proceed_brokenLink turn _ _ _).symm.trans linked
  | late =>
    unfold expire at linked
    rw [answer_brokenLink] at linked
    exact linked
  | overlong => exact (write_brokenLink ((turn.withBuffer []).count _) _).symm.trans linked
  | ended => exact (conclude_brokenLink turn _).symm.trans linked
  | stored => exact linked
  | waited => exact linked
  | severed text => cases linked

theorem Move.reading (move : Move setup caller turn deed after) {frame : List UInt8}
    (takes : deed.frame? = some frame) : turn.session.isReading = true := by
  cases move with
  | malformed reading => exact reading
  | asked reading => exact reading
  | repeated reading => exact reading
  | misplaced reading => exact reading
  | refused reading => exact reading
  | dispatched reading => exact reading
  | _ => cases takes

/-- A session that has a request in hand takes up no frame. -/
theorem Move.frameless (move : Move setup caller turn deed after) {message : Message}
    (pending : turn.session.pending? = some message) : deed.frame? = none := by
  cases takes : deed.frame? with
  | none => rfl
  | some frame =>
    rw [Session.pending?_of_isReading (move.reading takes)] at pending
    cases pending

/-- A frame that is taken up is executed just when it is due. -/
theorem Move.executes (move : Move setup caller turn deed after)
    (detects : turn.settings.errorDetection = true) {latest : Option Message}
    (complete : ∀ other ∈ latest, other.sequence.isSome = true ∧ other.checksum.isSome = true)
    (tracks : turn.session.sequence = Sequence.behind latest) {frame : List UInt8}
    (takes : deed.frame? = some frame) :
    deed.executed? = Message.due? (Session.fieldDelimiter turn.settings) latest frame := by
  -- A message that is not sent to get the last answer is due just when its verdict is new.
  have verdict {message : Message}
      (reads : Message.read frame (Session.fieldDelimiter turn.settings) = .ok message)
      (request : message.command ≠ some .requestAcsResend) :
      Message.due? (Session.fieldDelimiter turn.settings) latest frame =
        if turn.session.sequence.classify message turn.settings.errorDetection = .fresh then
          some message
        else none := by
    rw [detects, tracks]
    simp only [Sequence.classify_behind_eq_fresh_iff complete, Message.due?, reads, request,
      ne_eq, not_false_eq_true, decide_true, Bool.true_and, Bool.and_eq_true,
      Message.isSealed_eq reads]
  cases move with
  | malformed _ fails =>
    cases takes
    simp [Deed.executed?, Message.due?, fails]
  | asked _ reads resend =>
    cases takes
    simp [Deed.executed?, Message.due?, reads, resend]
  | repeated _ reads request repeats =>
    cases takes
    rw [verdict reads request, repeats]
    rfl
  | misplaced _ reads request invalid =>
    cases takes
    rw [verdict reads request, invalid]
    rfl
  | refused _ reads request new =>
    cases takes
    rw [verdict reads request, new]
    rfl
  | dispatched _ reads request new =>
    cases takes
    rw [verdict reads request, new]
    rfl
  | _ => cases takes

/-- What is written in a turn. -/
def written (turn : Turn) : List (List UInt8) := turn.effects.filterMap Effect.written?

theorem answerTallies_unwritten (outcome : Outcome) (body : Except RenderError String) :
    (answerTallies outcome body).filterMap Effect.written? = [] := by
  unfold answerTallies
  cases outcome.isSuccess <;> cases body <;> rfl

/-- How a turn stands after the answer to a request: it is written, and kept. -/
structure Answered (before after : Turn) (message : Message) : Prop where
  kept : ∃ bytes, after.written = before.written ++ [bytes] ∧
    after.session.lastAnswer = some bytes
  sequence : after.session.sequence = before.session.sequence.advance message
  pending : after.session.pending? = none

/-- What has been done to a turn before its answer does not matter, if nothing is written. -/
theorem Answered.since {start : Turn} {message : Message} (answered : Answered start after message)
    (unwritten : start.written = turn.written)
    (same : start.session.sequence = turn.session.sequence) : Answered turn after message := by
  obtain ⟨kept, sequence, pending⟩ := answered
  rw [unwritten] at kept
  rw [same] at sequence
  exact ⟨kept, sequence, pending⟩

theorem answer_answered (turn : Turn) (linked : turn.session.brokenLink = none)
    (message : Message) (outcome : Outcome) :
    Answered turn (turn.answer setup message outcome) message := by
  have whole : (turn.answered setup message outcome).written =
      turn.written ++ [turn.response setup message outcome] := by
    simp [written, answered, answerTallies_unwritten, Effect.written?]
  rw [answer_linked linked]
  split
  · refine ⟨⟨turn.response setup message outcome, ?_, rfl⟩, rfl, rfl⟩
    rw [← whole]
    simp [written, finish, count, Effect.written?]
  · exact ⟨⟨turn.response setup message outcome, whole, rfl⟩, rfl, rfl⟩

/-- A stretch leaves the wire alone in a session that was bound at the connection. -/
theorem Move.offWire (move : Move setup caller turn deed after)
    (bound : turn.session.context.tenant.isSome = true)
    (early : turn.session.context.resolvedAt ≠ some .login) {stretch : Stretch}
    (done : deed.stretch? = some stretch) : stretch.OffWire turn.session.context := by
  cases move with
  | dispatched =>
    cases done
    exact Dispatch.start_offWire bound early
  | resumed _ resumes =>
    cases done
    exact Dispatch.resume?_offWire resumes
  | _ => cases done

/-- What a handler does in a move is not written to the terminal. -/
theorem Move.unwritten (move : Move setup caller turn deed after) {stretch : Stretch}
    (done : deed.stretch? = some stretch) : stretch.effects.filterMap Effect.written? = [] := by
  cases move with
  | dispatched =>
    cases done
    exact Dispatch.start_unwritten
  | resumed _ resumes =>
    cases done
    exact (Dispatch.resume?_offWire resumes).unwritten
  | _ => cases done

/-- Every outcome is answered, from a turn that has not yet written or remembered anything. -/
theorem Move.exists_answer (move : Move setup caller turn deed after) {message : Message}
    {outcome : Outcome} (done : deed.outcome? = some (message, outcome)) :
    ∃ base : Turn, after = base.answer setup message outcome ∧
      base.session.brokenLink = turn.session.brokenLink ∧ base.written = turn.written ∧
      base.session.sequence = turn.session.sequence := by
  have mute (stretch : Stretch) (mine : deed.stretch? = some stretch) := move.unwritten mine
  cases move with
  | refused =>
    cases done
    exact ⟨turn, rfl, rfl, rfl, rfl⟩
  | dispatched | resumed =>
    obtain ⟨result, finishes, same⟩ := Option.map_eq_some_iff.mp done
    cases same
    refine ⟨_, proceed_of_finished (Stretch.result?_eq_some.mp finishes) _ _ _, rfl, ?_, rfl⟩
    simp [written, mute _ rfl]
  | late =>
    cases done
    exact ⟨_, rfl, rfl, rfl, rfl⟩
  | _ => cases done

/-- An outcome is answered. -/
theorem Move.answers (move : Move setup caller turn deed after)
    (linked : turn.session.brokenLink = none) {message : Message} {outcome : Outcome}
    (done : deed.outcome? = some (message, outcome)) : Answered turn after message := by
  obtain ⟨base, rfl, link, written, sequence⟩ := move.exists_answer done
  exact (answer_answered base (link.trans linked) message outcome).since written sequence

theorem proceed_memory (turn : Turn) (message : Message) (deadline : Nat) {stretch : Stretch}
    (unfinished : stretch.result? = none) :
    (turn.proceed setup message deadline stretch).session.sequence = turn.session.sequence ∧
      (turn.proceed setup message deadline stretch).session.lastAnswer =
        turn.session.lastAnswer := by
  cases stage : stretch.stage with
  | waiting wait =>
    rw [proceed_of_waiting stage]
    exact ⟨rfl, rfl⟩
  | finished result => simp [Stretch.result?, stage] at unfinished

theorem conclude_memory (turn : Turn) (ending : Ending) :
    (turn.conclude ending).session.sequence = turn.session.sequence ∧
      (turn.conclude ending).session.lastAnswer = turn.session.lastAnswer := by
  unfold conclude
  cases ending.tally? with
  | none => exact ⟨rfl, rfl⟩
  | some tally => exact ⟨rfl, rfl⟩

theorem write_memory (turn : Turn) (bytes : List UInt8) :
    (turn.write bytes).session.sequence = turn.session.sequence ∧
      (turn.write bytes).session.lastAnswer = turn.session.lastAnswer := by
  unfold write
  cases turn.session.brokenLink with
  | none => exact ⟨rfl, rfl⟩
  | some text => exact ⟨rfl, rfl⟩

theorem repeatAnswer_memory (turn : Turn) :
    turn.repeatAnswer.session.sequence = turn.session.sequence ∧
      turn.repeatAnswer.session.lastAnswer = turn.session.lastAnswer := by
  unfold repeatAnswer
  split
  · exact write_memory turn _
  · exact write_memory turn _

/-- Without an outcome a session remembers what it did. -/
theorem Move.remembers (move : Move setup caller turn deed after)
    (silent : deed.outcome? = none) :
    after.session.sequence = turn.session.sequence ∧
      after.session.lastAnswer = turn.session.lastAnswer := by
  cases move with
  | malformed => exact write_memory (turn.count _) _
  | asked => exact repeatAnswer_memory turn
  | repeated => exact repeatAnswer_memory (turn.count _)
  | misplaced => exact write_memory (turn.count _) _
  | dispatched => exact proceed_memory turn _ _ (Option.map_eq_none_iff.mp silent)
  | resumed => exact proceed_memory turn _ _ (Option.map_eq_none_iff.mp silent)
  | overlong => exact write_memory ((turn.withBuffer []).count _) _
  | ended => exact conclude_memory turn _
  | stored => exact ⟨rfl, rfl⟩
  | waited => exact ⟨rfl, rfl⟩
  | severed => exact ⟨rfl, rfl⟩
  | _ => cases silent

theorem proceed_balance (turn : Turn) (message : Message) (deadline : Nat) (stretch : Stretch) :
    [message] = (turn.proceed setup message deadline stretch).session.pending?.toList ++
      (stretch.result?.map fun _ => message).toList := by
  cases stage : stretch.stage with
  | waiting wait =>
    rw [proceed_of_waiting stage]
    simp [Session.pending?, Stretch.result?, stage]
  | finished result =>
    rw [proceed_of_finished stage, (answer_rests _ _ _).2]
    simp [Stretch.result?, stage]

/-- What is executed and what was pending is pending or answered. -/
theorem Move.balance (move : Move setup caller turn deed after) :
    deed.executed?.toList ++ turn.session.pending?.toList =
      after.session.pending?.toList ++ (deed.outcome?.map Prod.fst).toList := by
  -- A move from and to a session that waits for the terminal answers what it executes.
  have still (reading : turn.session.isReading = true) (idle : after.session.pending? = none)
      (same : deed.executed? = deed.outcome?.map Prod.fst) :
      deed.executed?.toList ++ turn.session.pending?.toList =
        after.session.pending?.toList ++ (deed.outcome?.map Prod.fst).toList := by
    rw [idle, same, Session.pending?_of_isReading reading]
    exact List.append_nil _
  cases move with
  | malformed reading => exact still reading (rejectMalformed_rests turn reading _).2 rfl
  | asked reading => exact still reading (repeatAnswer_rests turn reading).2 rfl
  | repeated reading => exact still reading (repeatAnswer_rests (turn.count _) reading).2 rfl
  | misplaced reading => exact still reading (askAgain_rests (turn.count _) reading).2 rfl
  | refused reading => exact still reading (answer_rests turn _ _).2 rfl
  | dispatched reading =>
    rw [Session.pending?_of_isReading reading]
    simpa [Deed.executed?, Deed.outcome?, Function.comp_def] using proceed_balance turn _ _ _
  | resumed busy =>
    rw [Session.pending?_of_handling busy]
    simpa [Deed.executed?, Deed.outcome?, Function.comp_def] using proceed_balance turn _ _ _
  | late busy =>
    unfold expire
    rw [(answer_rests _ _ _).2, Session.pending?_of_handling busy]
    rfl
  | overlong reading =>
    exact still reading (rejectMalformed_rests (turn.withBuffer []) reading _).2 rfl
  | ended reading => exact still reading (conclude_idle turn _) rfl
  | stored => simp [Deed.executed?, Deed.outcome?, withBuffer, Session.pending?]
  | waited reading => exact still reading rfl rfl
  | severed => simp [Deed.executed?, Deed.outcome?, Session.pending?]

/-- Over a broken link nothing is written. -/
theorem write_written_eq (turn : Turn) (bytes : List UInt8) :
    (turn.write bytes).written =
      turn.written ++ if turn.session.brokenLink = none then [bytes] else [] := by
  cases link : turn.session.brokenLink with
  | none => simp [write, link, written, Effect.written?]
  | some text => simp [write, link, written, count, finish, Effect.written?]

theorem repeatAnswer_written_eq (turn : Turn) {bytes : List UInt8}
    (kept : turn.session.lastAnswer = some bytes) :
    turn.repeatAnswer.written =
      turn.written ++ if turn.session.brokenLink = none then [bytes] else [] := by
  unfold repeatAnswer
  rw [kept]
  exact write_written_eq turn bytes

theorem repeatAnswer_written (turn : Turn) (linked : turn.session.brokenLink = none)
    {bytes : List UInt8} (kept : turn.session.lastAnswer = some bytes) :
    turn.repeatAnswer.written = turn.written ++ [bytes] := by
  rw [repeatAnswer_written_eq turn kept, if_pos linked]

/-- Whoever sends the digit and the checksum of the latest request again gets its answer again. -/
theorem Move.replays (move : Move setup caller turn deed after)
    (linked : turn.session.brokenLink = none)
    (detects : turn.settings.errorDetection = true) {latest message : Message}
    (complete : latest.sequence.isSome = true ∧ latest.checksum.isSome = true)
    (tracks : turn.session.sequence = Sequence.behind (some latest)) {bytes : List UInt8}
    (kept : turn.session.lastAnswer = some bytes) {frame : List UInt8}
    (takes : deed.frame? = some frame)
    (reads : Message.read frame (Session.fieldDelimiter turn.settings) = .ok message)
    (sameDigit : message.sequence = latest.sequence)
    (sameSum : message.checksum = latest.checksum) :
    deed.executed? = none ∧ deed.calls = [] ∧ after.written = turn.written ++ [bytes] := by
  obtain ⟨digit, numbered⟩ := Option.isSome_iff_exists.mp complete.1
  obtain ⟨checksum, summed⟩ := Option.isSome_iff_exists.mp complete.2
  have again : turn.session.sequence.classify message turn.settings.errorDetection = .repeated := by
    rw [tracks, detects]
    exact Sequence.classify_behind_eq_repeated numbered summed sameDigit sameSum
  have reading := move.reading takes
  by_cases request : message.command = some .requestAcsResend
  · obtain ⟨rfl, rfl⟩ := move.unique (.asked reading reads request) takes rfl
    exact ⟨rfl, rfl, repeatAnswer_written turn linked kept⟩
  · obtain ⟨rfl, rfl⟩ := move.unique (.repeated reading reads request again) takes rfl
    refine ⟨rfl, rfl, ?_⟩
    rw [repeatAnswer_written (turn.count _) linked kept]
    simp [written, count, Effect.written?]

/-- A session bound at the connection stays so, with the same wire settings. -/
theorem Move.wire (move : Move setup caller turn deed after)
    (bound : turn.session.context.tenant.isSome = true)
    (early : turn.session.context.resolvedAt ≠ some .login) :
    after.session.context.tenant = turn.session.context.tenant ∧
      after.session.context.resolvedAt = turn.session.context.resolvedAt ∧
      after.session.context.settings = turn.session.context.settings := by
  have stays : (deed.contextFrom turn.session.context).tenant = turn.session.context.tenant ∧
      (deed.contextFrom turn.session.context).resolvedAt = turn.session.context.resolvedAt ∧
      (deed.contextFrom turn.session.context).settings = turn.session.context.settings := by
    unfold Deed.contextFrom
    cases handled : deed.stretch? with
    | none => exact ⟨rfl, rfl, rfl⟩
    | some stretch =>
      obtain ⟨tenant, resolvedAt, settings, -⟩ := move.offWire bound early handled
      exact ⟨tenant, resolvedAt, settings⟩
  rcases move.keeps with same | closed
  · rw [same]
    exact stays
  · rw [closed]
    exact stays

end Turn

namespace Message

theorem sequence_isSome_of_follows {message : Message} {latest : Option Message}
    (follows : message.follows latest = true) : message.sequence.isSome = true := by
  unfold Message.follows at follows
  split at follows
  · exact follows
  · obtain ⟨digit, numbered, -⟩ := (Option.any_eq_true _ _).mp follows
    exact Option.isSome_iff_exists.mpr ⟨digit, numbered⟩

/-- What is due has a digit and a checksum. -/
theorem due_complete {delimiter : UInt8} {frames : List (List UInt8)} {message : Message}
    (member : message ∈ due delimiter frames) :
    message.sequence.isSome = true ∧ message.checksum.isSome = true := by
  induction frames with
  | nil => cases member
  | cons frame earlier ih =>
    rcases List.mem_append.mp member with new | old
    · rw [Option.mem_toList] at new
      unfold due? at new
      split at new
      · cases new
      · next request reads =>
        simp only [Option.ite_none_right_eq_some, Bool.and_eq_true, Option.some.injEq] at new
        obtain ⟨⟨⟨-, closed⟩, next⟩, rfl⟩ := new
        rw [isSealed_eq reads] at closed
        exact ⟨sequence_isSome_of_follows next, closed⟩
    · exact ih old

end Message

namespace Record

/-- Whoever sends the digit and the checksum of the latest request executed gets the bytes of its
answer again, and nobody is called. -/
def Replays (delimiter : UInt8) (past : List Episode) : Prop :=
  ∀ later episode earlier frame message latest, past = later ++ episode :: earlier →
    episode.deed.frame? = some frame → Message.read frame delimiter = .ok message →
    (executed earlier).head? = some latest → message.sequence = latest.sequence →
    message.checksum = latest.checksum →
    episode.deed.executed? = none ∧ episode.after.effects.filter Effect.isCall = [] ∧
      ∃ bytes, Answers earlier latest bytes ∧ episode.written = [bytes]

theorem taken_cons (episode : Episode) (past : List Episode) :
    taken (episode :: past) = episode.deed.frame?.toList ++ taken past := by
  cases frame : episode.deed.frame? <;> simp [taken, frame]

theorem executed_cons (episode : Episode) (past : List Episode) :
    executed (episode :: past) = episode.deed.executed?.toList ++ executed past := by
  cases request : episode.deed.executed? <;> simp [executed, request]

theorem answered_cons (episode : Episode) (past : List Episode) :
    answered (episode :: past) = (episode.deed.outcome?.map Prod.fst).toList ++ answered past := by
  cases outcome : episode.deed.outcome? <;> simp [answered, outcome]

/-- Without a new outcome the latest answer stays the latest. -/
theorem Answers.older {past : List Episode} {request : Message} {bytes : List UInt8}
    (answers : Answers past request bytes) {episode : Episode}
    (silent : episode.deed.outcome? = none) : Answers (episode :: past) request bytes := by
  obtain ⟨middle, answer, before, outcome, rfl, quiet, done, wrote⟩ := answers
  refine ⟨episode :: middle, answer, before, outcome, rfl, ?_, done, wrote⟩
  intro other member
  rcases List.mem_cons.mp member with rfl | member
  · exact silent
  · exact quiet other member

end Record

namespace Session

/-- The bytes that a session keeps are those of its latest answer. -/
def Retains (past : List Episode) (session : Session) : Prop :=
  ∀ request, (Record.answered past).head? = some request →
    ∃ bytes, session.lastAnswer = some bytes ∧ Record.Answers past request bytes

/-- What is executed is answered, or the session is in the middle of it. -/
def Settles (past : List Episode) (session : Session) : Prop :=
  Record.executed past = session.pending?.toList ++ Record.answered past

section

variable {setup : Setup} {caller : Nat} {past : List Episode} {session : Session}
  {shared : Shared} {deed : Deed} {turn : Turn}

/-- A session that waits for the terminal has answered everything. -/
theorem Settles.answered (settles : session.Settles past) (reading : session.isReading = true) :
    Record.answered past = Record.executed past := by
  rw [settles, pending?_of_isReading reading]
  rfl

theorem Settles.move (settles : session.Settles past)
    (move : Turn.Move setup caller (session.turn shared) deed turn) :
    turn.session.Settles (⟨session.turn shared, deed, turn⟩ :: past) := by
  unfold Settles
  rw [Record.executed_cons, Record.answered_cons, settles, ← List.append_assoc,
    ← List.append_assoc]
  exact congrArg (· ++ Record.answered past) move.balance

theorem Retains.move (retains : session.Retains past)
    (move : Turn.Move setup caller (session.turn shared) deed turn)
    (heard : deed.outcome?.isSome = true → session.brokenLink = none) :
    turn.session.Retains (⟨session.turn shared, deed, turn⟩ :: past) := by
  intro request first
  rw [Record.answered_cons] at first
  cases done : deed.outcome? with
  | none =>
    simp only [done, Option.map_none, Option.toList_none, List.nil_append] at first
    obtain ⟨bytes, kept, answers⟩ := retains request first
    exact ⟨bytes, (move.remembers done).2.trans kept, answers.older done⟩
  | some outcome =>
    obtain ⟨answeredRequest, outcome⟩ := outcome
    simp only [done, Option.map_some, Option.toList_some, List.singleton_append,
      List.head?_cons, Option.some.injEq] at first
    subst first
    have linked := heard (by simp [done])
    obtain ⟨bytes, wrote, kept⟩ := (move.answers linked done).kept
    exact ⟨bytes, kept, [], _, past, outcome, rfl, by simp, done, wrote⟩

end

/-- What a session remembers, said by its record. -/
structure Tracks (wire : WireSettings) (past : List Episode) (session : Session) : Prop where
  bound : session.context.tenant.isSome = true
  early : session.context.resolvedAt ≠ some .login
  settings : session.context.settings = wire
  due : Record.executed past = Message.due (fieldDelimiter wire) (Record.taken past)
  balance : Record.executed past = session.pending?.toList ++ Record.answered past
  sequence : session.sequence = Sequence.behind (Record.answered past).head?
  kept : session.Retains past

variable {setup : Setup} {caller : Nat} {wire : WireSettings} {past : List Episode}
  {session : Session} {shared : Shared} {deed : Deed} {turn : Turn}

theorem Tracks.complete (tracks : Tracks wire past session) {request : Message}
    (member : request ∈ Record.executed past) :
    request.sequence.isSome = true ∧ request.checksum.isSome = true := by
  rw [tracks.due] at member
  exact Message.due_complete member

/-- The frame of a move is executed when it is due after the frames on record. -/
theorem Tracks.executes (tracks : Tracks wire past session) (detects : wire.errorDetection = true)
    (move : Turn.Move setup caller (session.turn shared) deed turn) :
    Record.executed (⟨session.turn shared, deed, turn⟩ :: past) =
      Message.due (fieldDelimiter wire)
        (Record.taken (⟨session.turn shared, deed, turn⟩ :: past)) := by
  rw [Record.executed_cons, Record.taken_cons]
  cases takes : deed.frame? with
  | none =>
    simp only [Deed.executed?_of_frameless takes, Option.toList_none, List.nil_append]
    exact tracks.due
  | some frame =>
    -- Frames are taken up only when everything before them is answered, so the session compares
    -- the digit with that of the latest request executed.
    have reading := move.reading takes
    have sequence := tracks.sequence
    rw [Settles.answered tracks.balance reading] at sequence
    have complete : ∀ other ∈ (Record.executed past).head?,
        other.sequence.isSome = true ∧ other.checksum.isSome = true :=
      fun other first => tracks.complete (List.mem_of_mem_head? first)
    have same : (session.turn shared).settings = wire := tracks.settings
    have executes := move.executes (by rw [same]; exact detects) complete sequence takes
    rw [same, tracks.due] at executes
    simp only [Option.toList_some, List.singleton_append, Message.due]
    rw [executes, ← tracks.due]

/-- A request that is answered is remembered by its digit and checksum; without an answer the
session remembers what it did. -/
theorem Tracks.sequence_after (tracks : Tracks wire past session)
    (detects : wire.errorDetection = true)
    (move : Turn.Move setup caller (session.turn shared) deed turn)
    (linked : session.brokenLink = none) :
    turn.session.sequence = Sequence.behind
      (Record.answered (⟨session.turn shared, deed, turn⟩ :: past)).head? := by
  cases done : deed.outcome? with
  | none =>
    rw [Record.answered_cons, done]
    exact (move.remembers done).1.trans tracks.sequence
  | some outcome =>
    obtain ⟨request, outcome⟩ := outcome
    have answered := move.answers linked done
    -- Whatever is answered has been due, so it has a digit and a checksum.
    have member : request ∈ Record.executed (⟨session.turn shared, deed, turn⟩ :: past) := by
      rw [Settles.move tracks.balance move, Record.answered_cons]
      simp [done]
    rw [tracks.executes detects move] at member
    obtain ⟨digit, checksum⟩ := Message.due_complete member
    obtain ⟨digit, numbered⟩ := Option.isSome_iff_exists.mp digit
    obtain ⟨checksum, summed⟩ := Option.isSome_iff_exists.mp checksum
    rw [answered.sequence, Record.answered_cons]
    simpa [done] using Sequence.advance_eq_behind _ numbered summed

theorem Tracks.move (tracks : Tracks wire past session) (detects : wire.errorDetection = true)
    (move : Turn.Move setup caller (session.turn shared) deed turn)
    (linked : turn.session.brokenLink = none) :
    Tracks wire (⟨session.turn shared, deed, turn⟩ :: past) turn.session := by
  have before := move.linked linked
  obtain ⟨tenant, resolvedAt, settings⟩ := move.wire tracks.bound tracks.early
  constructor
  · rw [tenant]
    exact tracks.bound
  · rw [resolvedAt]
    exact tracks.early
  · exact settings.trans tracks.settings
  · exact tracks.executes detects move
  · exact Settles.move tracks.balance move
  · exact tracks.sequence_after detects move before
  · exact tracks.kept.move move fun _ => before

/-- A repeated request in a session that remembers its record. -/
theorem Tracks.replays (tracks : Tracks wire past session) (detects : wire.errorDetection = true)
    (move : Turn.Move setup caller (session.turn shared) deed turn)
    (linked : turn.session.brokenLink = none) {frame : List UInt8} {message latest : Message}
    (takes : deed.frame? = some frame)
    (reads : Message.read frame (fieldDelimiter wire) = .ok message)
    (first : (Record.executed past).head? = some latest)
    (sameDigit : message.sequence = latest.sequence)
    (sameSum : message.checksum = latest.checksum) :
    deed.executed? = none ∧ turn.effects.filter Effect.isCall = [] ∧
      ∃ bytes, Record.Answers past latest bytes ∧ turn.written = [bytes] := by
  have reading := move.reading takes
  have answered := Settles.answered tracks.balance reading
  have sequence := tracks.sequence
  rw [answered, first] at sequence
  obtain ⟨bytes, kept, answers⟩ := tracks.kept latest (by rw [answered, first])
  have complete := tracks.complete (List.mem_of_mem_head? first)
  have same : (session.turn shared).settings = wire := tracks.settings
  obtain ⟨new, silent, wrote⟩ := move.replays (move.linked linked) (by rw [same]; exact detects)
    complete sequence kept takes (by rw [same]; exact reads) sameDigit sameSum
  have calls : turn.calls = deed.calls := move.calls_eq
  rw [silent] at calls
  exact ⟨new, calls, bytes, answers, wrote⟩

variable {origin : Session}

theorem Course.tracks (fresh : Tracks wire [] origin) (detects : wire.errorDetection = true)
    (course : Course setup caller origin past session) (linked : session.brokenLink = none) :
    Tracks wire past session ∧ Record.Replays (fieldDelimiter wire) past := by
  -- A link that works now has worked at every move before, so the hypothesis goes down the course.
  induction course with
  | nil =>
    refine ⟨fresh, ?_⟩
    intro later episode earlier frame message latest whole
    simp at whole
  | @more past before shared deed turn course move ih =>
    obtain ⟨tracks, replays⟩ := ih (move.linked linked)
    refine ⟨tracks.move detects move linked, ?_⟩
    intro later episode earlier frame message latest whole
    cases later with
    | nil =>
      simp only [List.nil_append, List.cons.injEq] at whole
      obtain ⟨rfl, rfl⟩ := whole
      exact tracks.replays detects move linked
    | cons last later =>
      simp only [List.cons_append, List.cons.injEq] at whole
      exact replays later episode earlier frame message latest whole.2

/-- Requests are executed once each. In a session that was bound at the connection and whose wire
settings ask for error detection, over a link that works and whatever comes in between: executed are
just the requests that are due among the frames taken up, in their order; each is answered before
the next frame is taken up; and whoever sends the digit and the checksum of the latest one again
gets the bytes of its answer again, and nobody is called. -/
theorem due_requests_once {name : String} {peer : Net.SocketAddress} {port : Nat}
    (bound : (start setup shared name peer port).session.context.tenant.isSome = true)
    (detects :
      (start setup shared name peer port).session.context.settings.errorDetection = true)
    (course : Course setup caller (start setup shared name peer port).session past session)
    (linked : session.brokenLink = none) :
    let delimiter := fieldDelimiter (start setup shared name peer port).session.context.settings
    Record.executed past = Message.due delimiter (Record.taken past) ∧
      Record.executed past = session.pending?.toList ++ Record.answered past ∧
      Record.Replays delimiter past := by
  obtain ⟨-, idle, sequence, -, -, early⟩ := start_session setup shared name peer port
  have fresh : Tracks (start setup shared name peer port).session.context.settings []
      (start setup shared name peer port).session := by
    refine ⟨bound, early, rfl, rfl, ?_, sequence, ?_⟩
    · rw [idle]
      rfl
    · intro request first
      cases first
  obtain ⟨tracks, replays⟩ := course.tracks fresh detects linked
  exact ⟨tracks.due, tracks.balance, replays⟩

/-- A login without a user, sent twice. -/
def namelessTwice : List (Shared × Signal) :=
  let shared := Desk.shared (Desk.policy true []) (.empty 8)
  let frame := Frame.encode "9300CN|CO|" (.sequenced 4) Frame.carriageReturn
  [(shared, .received frame), (shared, .received frame)]

theorem due_requests_once_nameless :
    let answer := Frame.encode "940" (.sequenced 4) Frame.carriageReturn
    ∃ past session, Course Desk.setup 0 (Desk.session (Desk.policy true [])) past session ∧
      past.reverse.flatMap (·.written) = [answer, answer] ∧
      Record.executed past = Message.due 124 (Record.taken past) ∧ Record.Replays 124 past := by
  intro answer
  have works : ((Desk.session (Desk.policy true [])).play? Desk.setup 0 namelessTwice).any
      (fun played => played.2.brokenLink = none &&
        played.1.filterMap Effect.written? = [answer, answer]) = true := by decide +kernel
  obtain ⟨⟨effects, session⟩, plays, seen⟩ := (Option.any_eq_true _ _).mp works
  rw [Bool.and_eq_true, decide_eq_true_eq, decide_eq_true_eq] at seen
  obtain ⟨linked, twice⟩ := seen
  obtain ⟨past, course, rfl⟩ := Course.nil.play? plays
  rw [List.append_nil] at course
  obtain ⟨due, -, replays⟩ :=
    due_requests_once (by decide +kernel) (by decide +kernel) course linked
  refine ⟨past, session, course, ?_, due, replays⟩
  rw [← twice, List.filterMap_flatMap]
  rfl

end Session

end SelfCheck
