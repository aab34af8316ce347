import SelfCheck.Proofs.Frame.Split
import SelfCheck.Proofs.Session.Course

/-! Chunks do not matter: however the bytes of a terminal are cut into reads, its session does the
same.

Bytes wait in the buffer while a request is handled, and are cut into frames by the delimiter of the
moment when they are looked at. A login may change it. So a run is looked at one frame, one reply
and one read at a time: a read that is made early only makes the buffer longer.
-/

set_option autoImplicit false

namespace SelfCheck

namespace Session

/-- A session with other bytes in its buffer, which waits for the terminal, if it does, since a
given time. -/
def stocked (session : Session) (clock : Nat) (buffer : List UInt8) : Session :=
  { session with
    buffer
    activity := match session.activity with
      | .reading _ => .reading clock
      | other => other }

theorem stocked_stocked (session : Session) (clock clock' : Nat) (buffer buffer' : List UInt8) :
    (session.stocked clock buffer).stocked clock' buffer' = session.stocked clock' buffer' := by
  unfold stocked
  cases session.activity <;> rfl

@[simp] theorem stocked_context (session : Session) (clock : Nat) (buffer : List UInt8) :
    (session.stocked clock buffer).context = session.context := rfl

@[simp] theorem stocked_buffer (session : Session) (clock : Nat) (buffer : List UInt8) :
    (session.stocked clock buffer).buffer = buffer := rfl

@[simp] theorem stocked_isReading (session : Session) (clock : Nat) (buffer : List UInt8) :
    (session.stocked clock buffer).isReading = session.isReading := by
  unfold stocked isReading
  cases session.activity <;> rfl

end Session

namespace Turn

variable {setup : Setup} {caller : Nat}

/-- A turn of a session with other bytes in its buffer, which waits for the terminal since a given
time. -/
def stock (turn : Turn) (clock : Nat) (buffer : List UInt8) : Turn :=
  { turn with session := turn.session.stocked clock buffer }

/-! What is done with a frame does not depend on the bytes behind it, nor on how long the terminal
has been silent. -/

variable (turn : Turn) (clock clock' : Nat) (buffer buffer' : List UInt8)

theorem stock_stock :
    (turn.stock clock buffer).stock clock' buffer' = turn.stock clock' buffer' := by
  unfold stock
  rw [Session.stocked_stocked]

theorem write_stock (bytes : List UInt8) :
    ((turn.stock clock buffer).write bytes).stock clock' buffer' =
      (turn.write bytes).stock clock' buffer' := by
  unfold write
  cases link : turn.session.brokenLink with
  | none =>
    have linked : (turn.stock clock buffer).session.brokenLink = none := link
    rw [linked]
    exact stock_stock { turn with effects := turn.effects ++ [.write bytes] } ..
  | some text =>
    have severed : (turn.stock clock buffer).session.brokenLink = some text := link
    rw [severed]
    rfl

theorem askAgain_stock :
    (turn.stock clock buffer).askAgain.stock clock' buffer' = turn.askAgain.stock clock' buffer' :=
  write_stock turn clock clock' buffer buffer' _

theorem repeatAnswer_stock :
    (turn.stock clock buffer).repeatAnswer.stock clock' buffer' =
      turn.repeatAnswer.stock clock' buffer' := by
  unfold repeatAnswer
  cases last : turn.session.lastAnswer with
  | none =>
    have same : (turn.stock clock buffer).session.lastAnswer = none := last
    rw [same]
    exact askAgain_stock turn clock clock' buffer buffer'
  | some bytes =>
    have same : (turn.stock clock buffer).session.lastAnswer = some bytes := last
    rw [same]
    exact write_stock turn clock clock' buffer buffer' bytes

theorem rejectMalformed_stock (fault : FrameError) :
    ((turn.stock clock buffer).rejectMalformed fault).stock clock' buffer' =
      (turn.rejectMalformed fault).stock clock' buffer' :=
  askAgain_stock (turn.count _) clock clock' buffer buffer'

theorem answer_stock (message : Message) (outcome : Outcome) :
    ((turn.stock clock buffer).answer setup message outcome).stock clock' buffer' =
      (turn.answer setup message outcome).stock clock' buffer' := by
  unfold answer write
  cases link : turn.session.brokenLink with
  | none =>
    simp only [stock, Session.stocked, link, settings, Session.isReading, ↓reduceIte]
    split <;> rfl
  | some text =>
    simp only [stock, Session.stocked, link, settings, Session.isReading]
    rfl

theorem proceed_stock (message : Message) (deadline : Nat) (stretch : Stretch) :
    ((turn.stock clock buffer).proceed setup message deadline stretch).stock clock' buffer' =
      (turn.proceed setup message deadline stretch).stock clock' buffer' := by
  cases stage : stretch.stage with
  | waiting wait =>
    rw [proceed_of_waiting stage, proceed_of_waiting stage]
    rfl
  | finished result =>
    rw [proceed_of_finished stage, proceed_of_finished stage]
    exact answer_stock
      { shared := stretch.shared
        session := { turn.session with context := stretch.context }
        effects := turn.effects ++ stretch.effects } ..

theorem handleFrame_stock (frame : List UInt8) :
    ((turn.stock clock buffer).handleFrame setup caller frame).stock clock' buffer' =
      (turn.handleFrame setup caller frame).stock clock' buffer' := by
  have same : (turn.stock clock buffer).settings = turn.settings := rfl
  have context : (turn.stock clock buffer).session.context = turn.session.context := rfl
  have sequence : (turn.stock clock buffer).session.sequence = turn.session.sequence := rfl
  have shared : (turn.stock clock buffer).shared = turn.shared := rfl
  unfold handleFrame
  rw [same]
  split
  · unfold receive
    split
    · exact repeatAnswer_stock turn ..
    · rw [sequence, same]
      split
      · unfold execute
        rw [shared, context]
        split
        · exact answer_stock turn ..
        · exact proceed_stock turn ..
      · exact repeatAnswer_stock (turn.count _) ..
      · exact askAgain_stock (turn.count _) ..
  · exact rejectMalformed_stock turn ..

theorem handleFrame_behind (earlier : List Effect) (frame : List UInt8) :
    (turn.behind earlier).handleFrame setup caller frame =
      (turn.handleFrame setup caller frame).behind earlier := by
  have same : (turn.behind earlier).settings = turn.settings := rfl
  have session : (turn.behind earlier).session = turn.session := rfl
  have shared : (turn.behind earlier).shared = turn.shared := rfl
  unfold handleFrame
  rw [same]
  split
  · unfold receive
    split
    · exact repeatAnswer_behind earlier turn
    · rw [session, same]
      split
      · unfold execute
        rw [shared, session]
        split
        · exact answer_behind earlier turn _ _
        · exact proceed_behind earlier turn _ _ _
      · rw [count_behind, repeatAnswer_behind]
      · rw [count_behind, askAgain_behind]
  · exact rejectMalformed_behind earlier turn _

end Turn

/-- What a request gets while it waits, and how the surroundings have changed until then. -/
structure Cue where
  change : Shared → Shared
  reply : Reply

/-- How far a session has come with its reads and its cues. -/
structure Progress where
  effects : List Effect := []
  session : Session
  shared : Shared
  /-- The reads that it has not made. -/
  unread : List (List UInt8)
  /-- The cues that it has not had. -/
  cues : List Cue

namespace Progress

/-- Progress with effects that come before its own. -/
def after (effects : List Effect) (progress : Progress) : Progress :=
  { progress with effects := effects ++ progress.effects }

/-- Progress with all that is unread in the buffer. -/
def whole (progress : Progress) : Progress :=
  { progress with
    session := { progress.session with
      buffer := progress.session.buffer ++ progress.unread.flatten }
    unread := [] }

/-- Nothing was too large for a frame. -/
def Fits (progress : Progress) : Prop :=
  .count (.malformed .frameTooLarge) ∉ progress.effects

theorem whole_session {progress : Progress} (read : progress.unread = []) :
    progress.whole.session = progress.session := by
  simp [whole, read]

theorem whole_after (effects : List Effect) (progress : Progress) :
    (progress.after effects).whole = progress.whole.after effects := rfl

theorem after_after (first second : List Effect) (progress : Progress) :
    (progress.after second).after first = progress.after (first ++ second) := by
  simp [after]

theorem Fits.of_whole {progress other : Progress} (fits : progress.Fits)
    (same : progress.whole = other.whole) : other.Fits := by
  have effects : progress.whole.effects = other.whole.effects := by rw [same]
  change progress.effects = other.effects at effects
  unfold Fits
  rw [← effects]
  exact fits

theorem Fits.of_after {effects : List Effect} {progress : Progress}
    (fits : (progress.after effects).Fits) : progress.Fits :=
  fun member => fits (List.mem_append_right _ member)

end Progress

namespace Session

variable {setup : Setup} {caller : Nat}

/-- A session at work: it reads when it waits for the terminal, and gets its cues when it waits for
anything else. It stops when there is nothing more to read or to get, when a cue does not fit, and
when it is over. -/
def serve (setup : Setup) (caller : Nat) (session : Session) (shared : Shared)
    (reads : List (List UInt8)) (cues : List Cue) : Progress :=
  match session.activity with
  | .over _ => { session, shared, unread := reads, cues }
  | .reading _ =>
    match reads with
    | [] => { session, shared, unread := [], cues }
    | chunk :: reads =>
      match session.step? setup caller shared (.received chunk) with
      | none => serve setup caller session shared reads cues
      | some turn => (serve setup caller turn.session turn.shared reads cues).after turn.effects
  | .handling .. =>
    match cues with
    | [] => { session, shared, unread := reads, cues := [] }
    | cue :: cues =>
      match session.step? setup caller (cue.change shared) (.reply cue.reply) with
      | none => { session, shared, unread := reads, cues := cue :: cues }
      | some turn => (serve setup caller turn.session turn.shared reads cues).after turn.effects
termination_by reads.length + cues.length

/-- The same work, one frame, one read and one cue at a time. -/
def unroll (setup : Setup) (caller : Nat) (session : Session) (shared : Shared)
    (reads : List (List UInt8)) (cues : List Cue) : Progress :=
  match session.activity with
  | .over _ => { session, shared, unread := reads, cues }
  | .reading _ =>
    match _taken : Frame.split (messageDelimiter session.context.settings) setup.maxFrame
        session.buffer with
    | .frame frame rest =>
      let turn := (session.turn shared).handleFrame setup caller frame
      (unroll setup caller (turn.session.stocked turn.shared.clock rest) turn.shared reads
        cues).after turn.effects
    | .tooLarge length _ =>
      let turn := (session.turn shared).rejectMalformed (.tooLarge length setup.maxFrame)
      (unroll setup caller (turn.session.stocked turn.shared.clock []) turn.shared reads
        cues).after turn.effects
    | .incomplete rest =>
      match reads with
      | [] => { session := session.stocked shared.clock rest, shared, unread := [], cues }
      | chunk :: reads =>
        unroll setup caller (session.stocked shared.clock (rest ++ chunk)) shared reads cues
  | .handling message wait deadline =>
    match cues with
    | [] => { session, shared, unread := reads, cues := [] }
    | cue :: cues =>
      match Dispatch.resume? setup caller message wait (cue.change shared) session.context
          cue.reply with
      | none => { session, shared, unread := reads, cues := cue :: cues }
      | some stretch =>
        let turn :=
          (session.turn (cue.change shared)).proceed setup message deadline stretch
        (unroll setup caller (turn.session.stocked turn.shared.clock session.buffer) turn.shared
          reads cues).after turn.effects
termination_by (reads.length + cues.length, session.buffer.length)
decreasing_by
  · exact Prod.Lex.right _ (Frame.length_rest_lt _taken)
  · exact Prod.Lex.right _ (Frame.length_pos_of_tooLarge _taken)
  · exact Prod.Lex.left _ _ (by simp only [List.length_cons]; omega)
  · exact Prod.Lex.left _ _ (by simp only [List.length_cons]; omega)

/-! One frame, one read, one cue. -/

variable {session : Session} {shared : Shared} {reads : List (List UInt8)} {cues : List Cue}

/-- The front of some bytes, by the settings of the moment. -/
def front (setup : Setup) (session : Session) (buffer : List UInt8) : Frame.Split :=
  Frame.split (messageDelimiter session.context.settings) setup.maxFrame buffer

/-- What follows a turn that leaves some bytes in the buffer. -/
def onward (setup : Setup) (caller : Nat) (turn : Turn) (buffer : List UInt8)
    (reads : List (List UInt8)) (cues : List Cue) : Progress :=
  (unroll setup caller (turn.session.stocked turn.shared.clock buffer) turn.shared reads
    cues).after turn.effects

/-- What follows does not depend on what the turn itself has in the buffer. -/
theorem onward_congr {turn other : Turn}
    (same : turn.stock 0 [] = other.stock 0 []) (buffer : List UInt8) :
    onward setup caller turn buffer reads cues = onward setup caller other buffer reads cues := by
  have restock (turn : Turn) : onward setup caller (turn.stock 0 []) buffer reads cues =
      onward setup caller turn buffer reads cues := by
    unfold onward
    exact congrArg (fun session : Session =>
      (unroll setup caller session turn.shared reads cues).after turn.effects)
        (stocked_stocked ..)
  rw [← restock turn, same, restock]

theorem unroll_of_over {ending : Ending} (ended : session.activity = .over ending) :
    unroll setup caller session shared reads cues = { session, shared, unread := reads, cues } := by
  rw [unroll]
  split <;> simp_all

theorem unroll_of_frame (reading : session.isReading = true) {frame rest : List UInt8}
    (taken : front setup session session.buffer = .frame frame rest) :
    unroll setup caller session shared reads cues =
      onward setup caller ((session.turn shared).handleFrame setup caller frame) rest reads
        cues := by
  unfold front at taken
  unfold isReading at reading
  rw [unroll]
  split
  · simp_all
  · split <;> simp_all [onward]
  · simp_all

theorem unroll_of_tooLarge (reading : session.isReading = true) {length : Nat}
    {rest : List UInt8} (taken : front setup session session.buffer = .tooLarge length rest) :
    unroll setup caller session shared reads cues =
      onward setup caller ((session.turn shared).rejectMalformed (.tooLarge length setup.maxFrame))
        [] reads cues := by
  unfold front at taken
  unfold isReading at reading
  rw [unroll]
  split
  · simp_all
  · split <;> simp_all [onward]
  · simp_all

theorem unroll_of_incomplete (reading : session.isReading = true) {rest : List UInt8}
    (taken : front setup session session.buffer = .incomplete rest) :
    unroll setup caller session shared reads cues =
      match reads with
      | [] => { session := session.stocked shared.clock rest, shared, unread := [], cues }
      | chunk :: reads =>
        unroll setup caller (session.stocked shared.clock (rest ++ chunk)) shared reads cues := by
  unfold front at taken
  unfold isReading at reading
  rw [unroll]
  split
  · simp_all
  · split <;> simp_all
  · simp_all

theorem unroll_of_handling {message : Message} {wait : Wait} {deadline : Nat}
    (busy : session.activity = .handling message wait deadline) :
    unroll setup caller session shared reads cues =
      match cues with
      | [] => { session, shared, unread := reads, cues := [] }
      | cue :: cues =>
        match Dispatch.resume? setup caller message wait (cue.change shared) session.context
            cue.reply with
        | none => { session, shared, unread := reads, cues := cue :: cues }
        | some stretch =>
          onward setup caller
            ((session.turn (cue.change shared)).proceed setup message deadline stretch)
            session.buffer reads cues := by
  rw [unroll]
  split
  · simp_all
  · simp_all
  · next busy' =>
    rw [busy] at busy'
    cases busy'
    rfl

/-- Bytes with the same front lead to the same. -/
theorem unroll_stocked (reading : session.isReading = true) {buffer other : List UInt8}
    (same : front setup session buffer = front setup session other) (clock clock' : Nat) :
    unroll setup caller (session.stocked clock buffer) shared reads cues =
      unroll setup caller (session.stocked clock' other) shared reads cues := by
  have reads' (clock : Nat) (bytes : List UInt8) :
      (session.stocked clock bytes).isReading = true := by
    rw [stocked_isReading]
    exact reading
  cases taken : front setup session other with
  | frame frame rest =>
    rw [unroll_of_frame (reads' clock buffer) (same.trans taken),
      unroll_of_frame (reads' clock' other) taken]
    apply onward_congr
    exact (Turn.handleFrame_stock (session.turn shared) clock 0 buffer [] frame).trans
      (Turn.handleFrame_stock (session.turn shared) clock' 0 other [] frame).symm
  | tooLarge length rest =>
    rw [unroll_of_tooLarge (reads' clock buffer) (same.trans taken),
      unroll_of_tooLarge (reads' clock' other) taken]
    apply onward_congr
    exact (Turn.rejectMalformed_stock (session.turn shared) clock 0 buffer [] _).trans
      (Turn.rejectMalformed_stock (session.turn shared) clock' 0 other [] _).symm
  | incomplete rest =>
    rw [unroll_of_incomplete (reads' clock buffer) (same.trans taken),
      unroll_of_incomplete (reads' clock' other) taken]
    cases reads with
    | nil => simp only [stocked_stocked]
    | cons chunk reads => simp only [stocked_stocked]

theorem mem_effects_rejectMalformed (turn : Turn) (fault : FrameError) :
    .count (.malformed fault.kind) ∈ (turn.rejectMalformed fault).effects := by
  unfold Turn.rejectMalformed Turn.askAgain Turn.write
  split <;> simp [Turn.count, Turn.finish]

/-- If a read may be made early after a turn, then also before it. -/
theorem onward_cons {turn : Turn} {buffer chunk : List UInt8}
    (early : (unroll setup caller (turn.session.stocked turn.shared.clock buffer) turn.shared
        (chunk :: reads) cues).Fits ∨
      (unroll setup caller (turn.session.stocked turn.shared.clock (buffer ++ chunk)) turn.shared
        reads cues).Fits →
      (unroll setup caller (turn.session.stocked turn.shared.clock buffer) turn.shared
        (chunk :: reads) cues).whole =
      (unroll setup caller (turn.session.stocked turn.shared.clock (buffer ++ chunk)) turn.shared
        reads cues).whole)
    (fits : (onward setup caller turn buffer (chunk :: reads) cues).Fits ∨
      (onward setup caller turn (buffer ++ chunk) reads cues).Fits) :
    (onward setup caller turn buffer (chunk :: reads) cues).whole =
      (onward setup caller turn (buffer ++ chunk) reads cues).whole := by
  unfold onward at fits ⊢
  rw [Progress.whole_after, Progress.whole_after,
    early (fits.imp Progress.Fits.of_after Progress.Fits.of_after)]

/-- A read may be made early. -/
theorem unroll_cons {session : Session} {shared : Shared} {cues : List Cue} (chunk : List UInt8)
    (fits : (unroll setup caller session shared (chunk :: reads) cues).Fits ∨
      (unroll setup caller (session.stocked shared.clock (session.buffer ++ chunk)) shared reads
        cues).Fits) :
    (unroll setup caller session shared (chunk :: reads) cues).whole =
      (unroll setup caller (session.stocked shared.clock (session.buffer ++ chunk)) shared reads
        cues).whole := by
  -- The recursion is that of the work itself. Both runs have the same settings at each frame, so
  -- their buffers have the same front as long as the shorter one is not used up.
  match activity : session.activity with
  | .over ending =>
    have ended : (session.stocked shared.clock (session.buffer ++ chunk)).activity =
        .over ending := by simp [stocked, activity]
    rw [unroll_of_over activity, unroll_of_over ended]
    simp [Progress.whole, stocked, activity]
  | .handling message wait deadline =>
    have busy : (session.stocked shared.clock (session.buffer ++ chunk)).activity =
        .handling message wait deadline := by simp [stocked, activity]
    rw [unroll_of_handling activity, unroll_of_handling busy] at fits ⊢
    cases cues with
    | nil => simp [Progress.whole, stocked, activity]
    | cons cue cues =>
      dsimp only at fits ⊢
      rw [stocked_context, stocked_buffer] at fits ⊢
      cases resumes : Dispatch.resume? setup caller message wait (cue.change shared)
          session.context cue.reply with
      | none => simp [Progress.whole, stocked, activity]
      | some stretch =>
        rw [resumes] at fits
        dsimp only at fits ⊢
        have same : (((session.stocked shared.clock (session.buffer ++ chunk)).turn
              (cue.change shared)).proceed setup message deadline stretch).stock 0 [] =
            ((session.turn (cue.change shared)).proceed setup message deadline stretch).stock
              0 [] := Turn.proceed_stock (session.turn (cue.change shared)) ..
        rw [onward_congr same] at fits ⊢
        refine onward_cons ?_ fits
        intro later
        generalize Turn.proceed setup _ message deadline stretch = turn at later ⊢
        rw [← stocked_stocked turn.session turn.shared.clock turn.shared.clock session.buffer
          (session.buffer ++ chunk)] at later ⊢
        exact unroll_cons chunk later
  | .reading since =>
    have reading : session.isReading = true := by simp [isReading, activity]
    have reading' (buffer : List UInt8) :
        (session.stocked shared.clock buffer).isReading = true := by
      rw [stocked_isReading]
      exact reading
    cases taken : front setup session session.buffer with
    | frame frame rest =>
      have taken' := Frame.split_append_of_frame taken chunk
      have same : (((session.stocked shared.clock (session.buffer ++ chunk)).turn
            shared).handleFrame setup caller frame).stock 0 [] =
          ((session.turn shared).handleFrame setup caller frame).stock 0 [] :=
        Turn.handleFrame_stock (session.turn shared) ..
      rw [unroll_of_frame reading taken, unroll_of_frame (reading' _) taken',
        onward_congr same] at fits ⊢
      refine onward_cons ?_ fits
      intro later
      have shorter := Frame.length_rest_lt taken
      generalize (session.turn shared).handleFrame setup caller frame = turn at later ⊢
      rw [← stocked_stocked turn.session turn.shared.clock turn.shared.clock rest (rest ++ chunk)]
        at later ⊢
      exact unroll_cons chunk later
    | tooLarge length rest =>
      have large : ¬(unroll setup caller session shared (chunk :: reads) cues).Fits := by
        rw [unroll_of_tooLarge reading taken]
        intro none
        exact none (List.mem_append_left _ (mem_effects_rejectMalformed _ _))
      obtain ⟨length', rest', taken'⟩ :=
        Frame.split_append_of_tooLarge ⟨length, rest, taken⟩ chunk
      have large' : ¬(unroll setup caller
          (session.stocked shared.clock (session.buffer ++ chunk)) shared reads cues).Fits := by
        rw [unroll_of_tooLarge (reading' _) taken']
        intro none
        exact none (List.mem_append_left _ (mem_effects_rejectMalformed _ _))
      exact (fits.elim large large').elim
    | incomplete rest =>
      rw [unroll_of_incomplete reading taken]
      exact congrArg Progress.whole (unroll_stocked reading
        (Frame.split_append_of_incomplete taken chunk).symm _ _)
termination_by (cues.length, session.buffer.length)

theorem stocked_self (session : Session) (clock : Nat) (busy : session.isReading = false) :
    session.stocked clock session.buffer = session := by
  obtain ⟨context, sequence, lastAnswer, buffer, brokenLink, activity⟩ := session
  cases activity with
  | reading since => cases busy
  | _ => rfl

theorem unroll_stocked_self (session : Session) (shared : Shared) (clock : Nat) :
    unroll setup caller (session.stocked clock session.buffer) shared reads cues =
      unroll setup caller session shared reads cues := by
  cases activity : session.activity with
  | reading since =>
    have reading : session.isReading = true := by simp [isReading, activity]
    have same : session.stocked since session.buffer = session := by
      simp only [stocked, activity]
      rw [← activity]
    rw [unroll_stocked reading rfl clock since, same]
  | _ => rw [stocked_self session clock (by simp [isReading, activity])]

/-- All reads may be made at once. -/
theorem unroll_flatten (session : Session) (shared : Shared) (reads : List (List UInt8))
    (cues : List Cue)
    (fits : (unroll setup caller session shared reads cues).Fits ∨
      (unroll setup caller (session.stocked shared.clock (session.buffer ++ reads.flatten)) shared
        [] cues).Fits) :
    (unroll setup caller session shared reads cues).whole =
      (unroll setup caller (session.stocked shared.clock (session.buffer ++ reads.flatten)) shared
        [] cues).whole := by
  induction reads generalizing session with
  | nil => rw [List.flatten_nil, List.append_nil, unroll_stocked_self]
  | cons chunk reads ih =>
    have rest := ih (session.stocked shared.clock (session.buffer ++ chunk))
    rw [stocked_stocked, stocked_buffer, List.append_assoc, ← List.flatten_cons] at rest
    rcases fits with one | all
    · have first := unroll_cons chunk (.inl one)
      exact first.trans (rest (.inl (one.of_whole first)))
    · have last := rest (.inr all)
      exact (unroll_cons chunk (.inr (all.of_whole last.symm))).trans last

/-! The work, one frame at a time. -/

/-- A session that waits for the terminal, if it does, since now, and with no frame in its
buffer. -/
def Settled (setup : Setup) (session : Session) (shared : Shared) : Prop :=
  session.isReading = true → session.stocked shared.clock session.buffer = session ∧
    front setup session session.buffer = .incomplete session.buffer

end Session

namespace Turn

variable {setup : Setup} {caller : Nat}

/-- A turn that waits for the terminal from now on, if it does. -/
def rest (turn : Turn) : Turn := turn.stock turn.shared.clock turn.session.buffer

theorem settle_of_reading {turn : Turn} (reading : turn.session.isReading = true) :
    turn.settle setup caller = (turn.drain setup caller turn.session.buffer).rest := by
  unfold settle
  rw [if_pos reading]
  dsimp only
  unfold rest stock Session.stocked Session.isReading
  split <;> simp_all

theorem settle_of_busy {turn : Turn} (busy : turn.session.isReading = false) :
    turn.settle setup caller = turn := by
  unfold settle
  rw [if_neg (by simp [busy])]

end Turn

namespace Session

variable {setup : Setup} {caller : Nat} {turn : Turn} {bytes : List UInt8}
  {reads : List (List UInt8)} {cues : List Cue}

theorem onward_behind (effects : List Effect) (turn : Turn) (buffer : List UInt8) :
    onward setup caller (turn.behind effects) buffer reads cues =
      (onward setup caller turn buffer reads cues).after effects :=
  (Progress.after_after ..).symm

theorem stocked_turn_behind (turn : Turn) (clock : Nat) (buffer : List UInt8) :
    ((turn.session.stocked clock buffer).turn turn.shared).behind turn.effects =
      turn.stock clock buffer := by
  simp [Turn.behind, Turn.stock, Session.turn]

theorem onward_of_frame (reading : turn.session.isReading = true) {frame rest : List UInt8}
    (taken : front setup turn.session bytes = .frame frame rest) :
    onward setup caller turn bytes reads cues =
      onward setup caller (turn.handleFrame setup caller frame) rest reads cues := by
  have reading' : (turn.session.stocked turn.shared.clock bytes).isReading = true := by
    rw [stocked_isReading]
    exact reading
  rw [onward, unroll_of_frame reading' taken, ← onward_behind, ← Turn.handleFrame_behind,
    stocked_turn_behind]
  exact onward_congr (Turn.handleFrame_stock ..) rest

theorem onward_of_tooLarge (reading : turn.session.isReading = true) {length : Nat}
    {rest : List UInt8} (taken : front setup turn.session bytes = .tooLarge length rest) :
    onward setup caller turn bytes reads cues =
      onward setup caller (turn.rejectMalformed (.tooLarge length setup.maxFrame)) [] reads
        cues := by
  have reading' : (turn.session.stocked turn.shared.clock bytes).isReading = true := by
    rw [stocked_isReading]
    exact reading
  rw [onward, unroll_of_tooLarge reading' taken, ← onward_behind,
    ← Turn.rejectMalformed_behind, stocked_turn_behind]
  exact onward_congr (Turn.rejectMalformed_stock ..) []

theorem onward_of_incomplete (reading : turn.session.isReading = true) {rest : List UInt8}
    (taken : front setup turn.session bytes = .incomplete rest) :
    onward setup caller turn bytes reads cues = onward setup caller turn rest reads cues :=
  congrArg (Progress.after turn.effects)
    (unroll_stocked reading (taken.trans (Frame.split_incomplete taken).symm) _ _)

theorem write_buffer (turn : Turn) (bytes : List UInt8) :
    (turn.write bytes).session.buffer = turn.session.buffer := by
  unfold Turn.write
  split <;> rfl

/-- Taking frames off a buffer is the work, frame by frame. -/
theorem onward_drain (reading : turn.session.isReading = true) (bytes : List UInt8) :
    onward setup caller turn bytes reads cues =
      onward setup caller (turn.drain setup caller bytes)
        (turn.drain setup caller bytes).session.buffer reads cues := by
  fun_induction Turn.drain setup caller turn bytes with
  | case1 turn bytes rest taken =>
    rw [onward_of_incomplete reading taken]
    rfl
  | case2 turn bytes length rest taken =>
    have empty : ((turn.withBuffer []).rejectMalformed
        (.tooLarge length setup.maxFrame)).session.buffer = [] := write_buffer ..
    rw [onward_of_tooLarge reading taken, empty]
    apply onward_congr
    exact (Turn.rejectMalformed_stock turn 0 0 [] [] _).symm.trans
      (Turn.rejectMalformed_stock (turn.withBuffer []) 0 0 [] [] _)
  | case3 turn bytes frame rest taken next stillReading ih =>
    rw [onward_of_frame reading taken]
    exact ih stillReading
  | case4 turn bytes frame rest taken next busy =>
    rw [onward_of_frame reading taken]
    rfl

theorem onward_settle (turn : Turn) :
    onward setup caller turn turn.session.buffer reads cues =
      (unroll setup caller (turn.settle setup caller).session (turn.settle setup caller).shared
        reads cues).after (turn.settle setup caller).effects := by
  cases reading : turn.session.isReading with
  | true =>
    rw [Turn.settle_of_reading reading, onward_drain reading]
    rfl
  | false =>
    rw [Turn.settle_of_busy reading, onward, stocked_self _ _ reading]

/-- What is left in the buffer after taking frames off it belongs to no frame. -/
theorem drain_front (turn : Turn) (bytes : List UInt8)
    (reading : (turn.drain setup caller bytes).session.isReading = true) :
    front setup (turn.drain setup caller bytes).session
        (turn.drain setup caller bytes).session.buffer =
      .incomplete (turn.drain setup caller bytes).session.buffer := by
  fun_induction Turn.drain setup caller turn bytes with
  | case1 turn bytes rest taken => exact Frame.split_incomplete taken
  | case2 turn bytes length rest taken =>
    have empty : ((turn.withBuffer []).rejectMalformed
        (.tooLarge length setup.maxFrame)).session.buffer = [] := write_buffer ..
    rw [empty]
    exact Frame.split_nil _ _
  | case3 turn bytes frame rest taken next stillReading ih => exact ih reading
  | case4 turn bytes frame rest taken next busy => exact (busy reading).elim

theorem settle_settled (turn : Turn) :
    Settled setup (turn.settle setup caller).session (turn.settle setup caller).shared := by
  intro reading
  cases before : turn.session.isReading with
  | true =>
    rw [Turn.settle_of_reading before] at reading ⊢
    refine ⟨stocked_stocked .., drain_front turn _ ?_⟩
    rw [← reading]
    exact (stocked_isReading ..).symm
  | false =>
    rw [Turn.settle_of_busy before] at reading
    rw [before] at reading
    cases reading

variable {session : Session} {shared : Shared}

theorem answer_buffer (turn : Turn) (message : Message) (outcome : Outcome) :
    (turn.answer setup message outcome).session.buffer = turn.session.buffer := by
  cases link : turn.session.brokenLink with
  | none =>
    rw [Turn.answer_linked link]
    split <;> rfl
  | some text => rw [Turn.answer_severed link]

theorem proceed_buffer (turn : Turn) (message : Message) (deadline : Nat) (stretch : Stretch) :
    (turn.proceed setup message deadline stretch).session.buffer = turn.session.buffer := by
  cases stage : stretch.stage with
  | waiting wait => rw [Turn.proceed_of_waiting stage]
  | finished result =>
    rw [Turn.proceed_of_finished stage]
    exact answer_buffer _ _ _

/-- What comes of a read is what comes of the bytes in the buffer. -/
theorem unroll_received {chunk : List UInt8} {turn : Turn}
    (received : session.step? setup caller shared (.received chunk) = some turn) :
    (unroll setup caller turn.session turn.shared reads cues).after turn.effects =
      unroll setup caller (session.stocked shared.clock (session.buffer ++ chunk)) shared reads
        cues := by
  simp only [step?, Option.ite_none_right_eq_some, Option.some.injEq] at received
  obtain ⟨-, rfl⟩ := received
  exact (onward_settle _).symm

theorem unroll_reply {message : Message} {wait : Wait} {deadline : Nat}
    (busy : session.activity = .handling message wait deadline) (cue : Cue) :
    unroll setup caller session shared reads (cue :: cues) =
      match session.step? setup caller (cue.change shared) (.reply cue.reply) with
      | none => { session, shared, unread := reads, cues := cue :: cues }
      | some turn =>
        (unroll setup caller turn.session turn.shared reads cues).after turn.effects := by
  rw [unroll_of_handling busy]
  simp only [step?, resume?, busy]
  cases Dispatch.resume? setup caller message wait (cue.change shared) session.context
      cue.reply with
  | none => rfl
  | some stretch =>
    have same : ((session.turn (cue.change shared)).proceed setup message deadline
        stretch).session.buffer = session.buffer := proceed_buffer ..
    dsimp only [Option.map_some]
    rw [← onward_settle, same]

theorem step?_settled {signal : Signal} {turn : Turn}
    (waited : ∃ reply bytes, signal = .reply reply ∨ signal = .received bytes)
    (steps : session.step? setup caller shared signal = some turn) :
    Settled setup turn.session turn.shared := by
  obtain ⟨reply, bytes, rfl | rfl⟩ := waited
  · simp only [step?, resume?] at steps
    split at steps
    · obtain ⟨stretch, -, rfl⟩ := Option.map_eq_some_iff.mp steps
      exact settle_settled _
    · cases steps
  · simp only [step?, Option.ite_none_right_eq_some, Option.some.injEq] at steps
    obtain ⟨-, rfl⟩ := steps
    exact settle_settled _

/-- A session takes up nothing between two signals, so it does not matter when it is looked at. -/
theorem serve_eq_unroll (settled : session.Settled setup shared) :
    serve setup caller session shared reads cues =
      unroll setup caller session shared reads cues := by
  fun_induction serve setup caller session shared reads cues with
  | case1 session shared reads cues ending ended => rw [unroll_of_over ended]
  | case2 session shared cues since waits =>
    have reading : session.isReading = true := by simp [isReading, waits]
    obtain ⟨same, left⟩ := settled reading
    rw [unroll_of_incomplete reading left, same]
  | case3 session shared cues since waits chunk reads nothing ih =>
    have reading : session.isReading = true := by simp [isReading, waits]
    obtain ⟨same, left⟩ := settled reading
    have empty : chunk = [] := by simpa [step?, reading] using nothing
    have skips : unroll setup caller session shared ([] :: reads) cues =
        unroll setup caller session shared reads cues := by
      rw [unroll_of_incomplete reading left]
      dsimp only
      rw [List.append_nil, same]
    rw [ih settled, empty, skips]
  | case4 session shared cues since waits chunk reads turn received ih =>
    have reading : session.isReading = true := by simp [isReading, waits]
    obtain ⟨-, left⟩ := settled reading
    rw [ih (step?_settled ⟨.admitted, chunk, .inr rfl⟩ received), unroll_received received,
      unroll_of_incomplete reading left]
  | case5 session shared reads message wait deadline busy => rw [unroll_of_handling busy]
  | case6 session shared reads message wait deadline busy cue cues misfit =>
    rw [unroll_reply busy, misfit]
  | case7 session shared reads message wait deadline busy cue cues turn goes ih =>
    rw [ih (step?_settled ⟨cue.reply, [], .inl rfl⟩ goes), unroll_reply busy, goes]

/-- A session that waits for the terminal takes up all that comes as if it came at once. -/
theorem serve_of_reading (reading : session.isReading = true) (some : reads.flatten ≠ [])
    (fits : (serve setup caller session shared reads cues).Fits ∨
      (unroll setup caller (session.stocked shared.clock (session.buffer ++ reads.flatten)) shared
        [] cues).Fits) :
    (serve setup caller session shared reads cues).whole =
      (unroll setup caller (session.stocked shared.clock (session.buffer ++ reads.flatten)) shared
        [] cues).whole := by
  induction reads with
  | nil => exact (some rfl).elim
  | cons chunk reads ih =>
    have waits : ∃ since, session.activity = .reading since := by
      unfold isReading at reading
      split at reading
      · next since waits => exact ⟨since, waits⟩
      · cases reading
    obtain ⟨since, waits⟩ := waits
    cases received : session.step? setup caller shared (.received chunk) with
    | none =>
      have empty : chunk = [] := by simpa [step?, reading] using received
      have skips : serve setup caller session shared (chunk :: reads) cues =
          serve setup caller session shared reads cues := by
        rw [serve.eq_def]
        simp [waits, received]
      subst empty
      rw [skips] at fits ⊢
      exact ih (by simpa using some) fits
    | some turn =>
      have takes : serve setup caller session shared (chunk :: reads) cues =
          unroll setup caller (session.stocked shared.clock (session.buffer ++ chunk)) shared reads
            cues := by
        rw [← unroll_received received,
          ← serve_eq_unroll (step?_settled ⟨.admitted, chunk, .inr rfl⟩ received), serve.eq_def]
        simp [waits, received]
      rw [takes] at fits ⊢
      have joined : session.stocked shared.clock (session.buffer ++ (chunk :: reads).flatten) =
          (session.stocked shared.clock (session.buffer ++ chunk)).stocked shared.clock
            ((session.stocked shared.clock (session.buffer ++ chunk)).buffer ++ reads.flatten) := by
        rw [stocked_stocked, stocked_buffer, List.append_assoc, List.flatten_cons]
      rw [joined] at fits ⊢
      exact unroll_flatten _ shared reads cues fits

theorem serve_of_silent (reading : session.isReading = true) (silent : reads.flatten = []) :
    serve setup caller session shared reads cues = { session, shared, unread := [], cues } := by
  fun_induction serve setup caller session shared reads cues with
  | case2 => rfl
  | case3 session shared cues since waits chunk reads nothing ih =>
    rw [List.flatten_cons, List.append_eq_nil_iff] at silent
    exact ih reading silent.2
  | case4 session shared cues since waits chunk reads turn received ih =>
    rw [List.flatten_cons, List.append_eq_nil_iff] at silent
    simp [step?, silent.1] at received
  | case1 _ _ _ _ _ ended => simp [isReading, ended] at reading
  | case5 _ _ _ _ _ _ busy => simp [isReading, busy] at reading
  | case6 _ _ _ _ _ _ busy => simp [isReading, busy] at reading
  | case7 _ _ _ _ _ _ busy => simp [isReading, busy] at reading

theorem serve_whole {others : List (List UInt8)} (same : reads.flatten = others.flatten)
    (fits : (serve setup caller session shared reads cues).Fits) :
    (serve setup caller session shared reads cues).whole =
      (serve setup caller session shared others cues).whole := by
  cases reading : session.isReading with
  | true =>
    by_cases silent : reads.flatten = []
    · rw [serve_of_silent reading silent, serve_of_silent reading (same ▸ silent)]
    · have one := serve_of_reading reading silent (.inl fits)
      rw [one, same]
      refine (serve_of_reading reading (same ▸ silent) (.inr ?_)).symm
      rw [← same]
      exact fits.of_whole one
  | false =>
    have settled : session.Settled setup shared := by
      intro waits
      rw [reading] at waits
      cases waits
    rw [serve_eq_unroll settled] at fits ⊢
    rw [serve_eq_unroll settled]
    have one := unroll_flatten session shared reads cues (.inl fits)
    rw [one, same]
    refine (unroll_flatten session shared others cues (.inr ?_)).symm
    rw [← same]
    exact fits.of_whole one

/-- A session that waits for the terminal in the end has read everything. -/
theorem serve_unread
    (reading : (serve setup caller session shared reads cues).session.isReading = true) :
    (serve setup caller session shared reads cues).unread = [] := by
  fun_induction serve setup caller session shared reads cues with
  | case2 => rfl
  | case3 _ _ _ _ _ _ _ _ ih => exact ih reading
  | case4 _ _ _ _ _ _ _ _ _ ih => exact ih reading
  | case7 _ _ _ _ _ _ _ _ _ _ _ ih => exact ih reading
  | case1 _ _ _ _ _ ended => simp [isReading, ended] at reading
  | case5 _ _ _ _ _ _ busy => simp [isReading, busy] at reading
  | case6 _ _ _ _ _ _ busy => simp [isReading, busy] at reading

/-- However the bytes of a terminal are cut into reads, its session does the same, as long as none
of them is too large for a frame: the same answers and calls in the same order, the same things
shared and the same cues used. It ends in the same state, too; a session that stops without having
read everything has the rest in its buffer or before it. -/
theorem same_for_all_cuts {others : List (List UInt8)} (same : reads.flatten = others.flatten)
    (fits : .count (.malformed .frameTooLarge) ∉
      (serve setup caller session shared reads cues).effects) :
    let one := serve setup caller session shared reads cues
    let other := serve setup caller session shared others cues
    one.effects = other.effects ∧ one.shared = other.shared ∧ one.cues = other.cues ∧
      { one.session with buffer := one.session.buffer ++ one.unread.flatten } =
        { other.session with buffer := other.session.buffer ++ other.unread.flatten } ∧
      (one.session.isReading = true → one.session = other.session) := by
  intro one other
  have whole : one.whole = other.whole := serve_whole same fits
  have effects : one.whole.effects = other.whole.effects := by rw [whole]
  have shared' : one.whole.shared = other.whole.shared := by rw [whole]
  have cues' : one.whole.cues = other.whole.cues := by rw [whole]
  have session' : one.whole.session = other.whole.session := by rw [whole]
  refine ⟨effects, shared', cues', session', ?_⟩
  intro reading
  have activity : one.whole.session.activity = other.whole.session.activity := by rw [session']
  have reading' : other.session.isReading = true := by
    unfold isReading at reading ⊢
    rw [← show one.session.activity = other.session.activity from activity]
    exact reading
  rw [← Progress.whole_session (serve_unread reading),
    ← Progress.whole_session (serve_unread reading')]
  exact session'

/-- A library with delimiters of its own, which its sessions find at a login. -/
def switching : Setup where
  resolvers := [.locationCode [("m", Desk.library)]]
  settings := { errorDetection := false }

def switched : Policy where
  tenants := [(Desk.library, {
    session := { errorDetection := false, fieldDelimiter := '^', messageDelimiter := '~' } })]

/-- A login and two requests for the status, which end as the library wants it. -/
def pipelined : List UInt8 :=
  Desk.line "9300CNu|COp|CPm|" ++ Frame.encode "9900302.00" .none 126 ++
    Frame.encode "9900802.00" .none 126

theorem same_for_all_cuts_switching :
    let shared := Desk.shared switched (.empty 8)
    let session := (start switching shared "s" Desk.terminal 6443).session
    let cues : List Cue := [⟨id, .login (.ok Desk.token)⟩]
    let one := serve switching 0 session shared [pipelined] cues
    let other := serve switching 0 session shared (pipelined.map ([·])) cues
    (Effect.written one.effects).count 126 = 3 ∧ one.effects = other.effects ∧
      one.session.context.settings.messageDelimiter = '~' ∧ one.session = other.session := by
  intro shared session cues one other
  have fits : .malformed .frameTooLarge ∉ Effect.tallies one.effects := by decide +kernel
  have same : [pipelined].flatten = (pipelined.map ([·])).flatten := by decide +kernel
  obtain ⟨effects, -, -, -, sessions⟩ := same_for_all_cuts same fun member =>
    fits (List.mem_filterMap.mpr ⟨_, member, rfl⟩)
  have reading : one.session.isReading = true := by decide +kernel
  exact ⟨by decide +kernel, effects, by decide +kernel, sessions reading⟩

end Session

end SelfCheck
