import SelfCheck.Session

/-! What a session does, one move at a time.

A turn may take up several frames, and a request may take several turns. A move is what a session
does with one frame, with one reply, or when its time is over. Each turn is a chain of moves, so a
law of moves is a law of turns.
-/

set_option autoImplicit false

namespace SelfCheck

/-- What a session does in one move. -/
inductive Deed where
  /-- It takes up a frame that cannot be read. -/
  | malformed (frame : List UInt8) (fault : FrameError)
  /-- It is asked for its last answer. -/
  | asked (frame : List UInt8) (message : Message)
  /-- It gets the last request again. -/
  | repeated (frame : List UInt8) (message : Message)
  /-- It gets a request whose digit is not in order. -/
  | misplaced (frame : List UInt8) (message : Message)
  /-- It gets a new request that may not be handled. -/
  | refused (frame : List UInt8) (message : Message) (cause : Cause)
  /-- It hands a new request to its handler. -/
  | dispatched (frame : List UInt8) (message : Message) (stretch : Stretch)
  /-- The handling of its request goes on. -/
  | resumed (message : Message) (reply : Reply) (stretch : Stretch)
  /-- The time of its request is over. -/
  | late (message : Message)
  /-- It gives up what is too large for a frame. -/
  | overlong (length : Nat)
  | ended (ending : Ending)
  /-- Nothing that anybody else sees. -/
  | quiet

def Stretch.result? (stretch : Stretch) : Option (Except Failure Json) :=
  match stretch.stage with
  | .finished result => some result
  | .waiting _ => none

theorem Stretch.result?_eq_some {stretch : Stretch} {result : Except Failure Json} :
    stretch.result? = some result ↔ stretch.stage = .finished result := by
  unfold result?
  cases stretch.stage <;> simp

namespace Deed

/-- The frame that is taken up. -/
def frame? : Deed → Option (List UInt8)
  | malformed frame _ | asked frame _ | repeated frame _ | misplaced frame _ | refused frame _ _
  | dispatched frame _ _ => some frame
  | _ => none

/-- The request that is handled. -/
def request? : Deed → Option Message
  | refused _ message _ | dispatched _ message _ | resumed message _ _ | late message =>
    some message
  | _ => none

/-- What a handler has done, for a request that is handled. -/
def stretch? : Deed → Option Stretch
  | dispatched _ _ stretch | resumed _ _ stretch => some stretch
  | _ => none

/-- The request that is answered, and its outcome. -/
def outcome? : Deed → Option (Message × Outcome)
  | refused _ message cause => some (message, .failure message.command { cause })
  | dispatched _ message stretch | resumed message _ stretch =>
    stretch.result?.map fun result => (message, Dispatch.outcome message result)
  | late message => some (message, Session.lateOutcome message)
  | _ => none

end Deed

/-- Endings that are counted. -/
def Ending.tally? : Ending → Option Tally
  | readFault _ => some .socketError
  | idle => some .idleTimeout
  | _ => none

namespace Turn

/-- A connection comes to its end. -/
def conclude (turn : Turn) (ending : Ending) : Turn :=
  (ending.tally?.elim turn turn.count).finish ending

/-- The request has not been answered in time; it gives up its share in a login. -/
def expire (setup : Setup) (caller : Nat) (turn : Turn) (message : Message) : Turn :=
  { turn with shared := { turn.shared with logins := turn.shared.logins.leave caller } }.answer
    setup message (Session.lateOutcome message)

/-- The moves that a session can make, with what they need and what they lead to. -/
inductive Move (setup : Setup) (caller : Nat) : Turn → Deed → Turn → Prop where
  | malformed {turn : Turn} {frame : List UInt8} {fault : FrameError} :
      turn.session.isReading = true →
      Message.read frame (Session.fieldDelimiter turn.settings) = .error fault →
      Move setup caller turn (.malformed frame fault) (turn.rejectMalformed fault)
  | asked {turn : Turn} {frame : List UInt8} {message : Message} :
      turn.session.isReading = true →
      Message.read frame (Session.fieldDelimiter turn.settings) = .ok message →
      message.command = some .requestAcsResend →
      Move setup caller turn (.asked frame message) turn.repeatAnswer
  | repeated {turn : Turn} {frame : List UInt8} {message : Message} :
      turn.session.isReading = true →
      Message.read frame (Session.fieldDelimiter turn.settings) = .ok message →
      message.command ≠ some .requestAcsResend →
      turn.session.sequence.classify message turn.settings.errorDetection = .repeated →
      Move setup caller turn (.repeated frame message) (turn.count .resend).repeatAnswer
  | misplaced {turn : Turn} {frame : List UInt8} {message : Message} :
      turn.session.isReading = true →
      Message.read frame (Session.fieldDelimiter turn.settings) = .ok message →
      message.command ≠ some .requestAcsResend →
      turn.session.sequence.classify message turn.settings.errorDetection = .invalid →
      Move setup caller turn (.misplaced frame message) (turn.count .invalidMessage).askAgain
  | refused {turn : Turn} {frame : List UInt8} {message : Message} {cause : Cause} :
      turn.session.isReading = true →
      Message.read frame (Session.fieldDelimiter turn.settings) = .ok message →
      message.command ≠ some .requestAcsResend →
      turn.session.sequence.classify message turn.settings.errorDetection = .fresh →
      message.command.bind (refusal? turn.shared.policy turn.session.context) = some cause →
      Move setup caller turn (.refused frame message cause)
        (turn.answer setup message (.failure message.command { cause }))
  | dispatched {turn : Turn} {frame : List UInt8} {message : Message} :
      turn.session.isReading = true →
      Message.read frame (Session.fieldDelimiter turn.settings) = .ok message →
      message.command ≠ some .requestAcsResend →
      turn.session.sequence.classify message turn.settings.errorDetection = .fresh →
      message.command.bind (refusal? turn.shared.policy turn.session.context) = none →
      Move setup caller turn
        (.dispatched frame message
          (Dispatch.start setup caller message turn.shared turn.session.context))
        (turn.proceed setup message (turn.shared.clock + setup.requestTimeout)
          (Dispatch.start setup caller message turn.shared turn.session.context))
  | resumed {turn : Turn} {message : Message} {wait : Wait} {deadline : Nat} {reply : Reply}
      {stretch : Stretch} :
      turn.session.activity = .handling message wait deadline →
      Dispatch.resume? setup caller message wait turn.shared turn.session.context reply =
        some stretch →
      Move setup caller turn (.resumed message reply stretch)
        (turn.proceed setup message deadline stretch)
  | late {turn : Turn} {message : Message} {wait : Wait} {deadline : Nat} :
      turn.session.activity = .handling message wait deadline →
      deadline ≤ turn.shared.clock →
      Move setup caller turn (.late message) (turn.expire setup caller message)
  | overlong {turn : Turn} {length : Nat} :
      turn.session.isReading = true →
      Move setup caller turn (.overlong length)
        ((turn.withBuffer []).rejectMalformed (.tooLarge length setup.maxFrame))
  | ended {turn : Turn} {ending : Ending} :
      turn.session.isReading = true →
      Move setup caller turn (.ended ending) (turn.conclude ending)
  | stored {turn : Turn} (buffer : List UInt8) :
      Move setup caller turn .quiet (turn.withBuffer buffer)
  | waited {turn : Turn} :
      turn.session.isReading = true →
      Move setup caller turn .quiet
        { turn with session := { turn.session with activity := .reading turn.shared.clock } }
  | severed {turn : Turn} (text : String) :
      turn.session.ending?.isNone = true →
      Move setup caller turn .quiet
        { turn with session := { turn.session with brokenLink := some text } }

/-- Taking up a frame is one move. -/
theorem move_handleFrame (setup : Setup) (caller : Nat) {turn : Turn}
    (reading : turn.session.isReading = true) (frame : List UInt8) :
    ∃ deed, deed.frame? = some frame ∧
      Move setup caller turn deed (turn.handleFrame setup caller frame) := by
  unfold handleFrame
  cases read : Message.read frame (Session.fieldDelimiter turn.settings) with
  | error fault => exact ⟨_, rfl, .malformed reading read⟩
  | ok message =>
    dsimp only
    unfold receive
    by_cases resend : message.command = some .requestAcsResend
    · rw [if_pos resend]
      exact ⟨_, rfl, .asked reading read resend⟩
    · rw [if_neg resend]
      cases verdict : turn.session.sequence.classify message turn.settings.errorDetection with
      | repeated => exact ⟨_, rfl, .repeated reading read resend verdict⟩
      | invalid => exact ⟨_, rfl, .misplaced reading read resend verdict⟩
      | fresh =>
        dsimp only
        unfold execute
        cases gate : message.command.bind
            (refusal? turn.shared.policy turn.session.context) with
        | some cause => exact ⟨_, rfl, .refused reading read resend verdict gate⟩
        | none => exact ⟨_, rfl, .dispatched reading read resend verdict gate⟩

/-- A frame is taken up in one way only. -/
theorem Move.unique {setup : Setup} {caller : Nat} {turn after after' : Turn} {deed deed' : Deed}
    (move : Move setup caller turn deed after) (move' : Move setup caller turn deed' after')
    {frame : List UInt8} (takes : deed.frame? = some frame) (takes' : deed'.frame? = some frame) :
    deed = deed' ∧ after = after' := by
  -- Two different moves with a frame disagree on how it is read, how it stands in the sequence, or
  -- whether it may be handled.
  cases move <;> cases takes <;> cases move' <;> cases takes' <;> grind

/-! What is done in front of a turn does not matter to it. -/

variable {setup : Setup} {caller : Nat}

/-- A turn with effects that come before its own. -/
def behind (earlier : List Effect) (turn : Turn) : Turn :=
  { turn with effects := earlier ++ turn.effects }

/-- A turn that has not done anything yet. -/
def fresh (turn : Turn) : Turn := { turn with effects := [] }

theorem fresh_behind (turn : Turn) : turn.fresh.behind turn.effects = turn := by
  simp [fresh, behind]

theorem count_behind (earlier : List Effect) (turn : Turn) (tally : Tally) :
    (turn.behind earlier).count tally = (turn.count tally).behind earlier := by
  simp [count, behind]

theorem finish_behind (earlier : List Effect) (turn : Turn) (ending : Ending) :
    (turn.behind earlier).finish ending = (turn.finish ending).behind earlier := by
  simp [finish, count, behind]

theorem write_behind (earlier : List Effect) (turn : Turn) (bytes : List UInt8) :
    (turn.behind earlier).write bytes = (turn.write bytes).behind earlier := by
  unfold write
  cases link : turn.session.brokenLink with
  | none => simp [behind, link]
  | some text => simp [behind, link, count, finish]

theorem askAgain_behind (earlier : List Effect) (turn : Turn) :
    (turn.behind earlier).askAgain = turn.askAgain.behind earlier :=
  write_behind earlier turn _

theorem repeatAnswer_behind (earlier : List Effect) (turn : Turn) :
    (turn.behind earlier).repeatAnswer = turn.repeatAnswer.behind earlier := by
  unfold repeatAnswer
  cases last : turn.session.lastAnswer with
  | none => simpa [behind, last] using askAgain_behind earlier turn
  | some bytes => simpa [behind, last] using write_behind earlier turn bytes

theorem rejectMalformed_behind (earlier : List Effect) (turn : Turn) (fault : FrameError) :
    (turn.behind earlier).rejectMalformed fault = (turn.rejectMalformed fault).behind earlier := by
  unfold rejectMalformed
  rw [count_behind, askAgain_behind]

theorem answer_behind (earlier : List Effect) (turn : Turn) (message : Message)
    (outcome : Outcome) :
    (turn.behind earlier).answer setup message outcome =
      (turn.answer setup message outcome).behind earlier := by
  unfold answer write
  cases link : turn.session.brokenLink with
  | none =>
    simp only [behind, link, settings, Session.isReading, ↓reduceIte]
    split <;> simp [count, finish]
  | some text => simp [behind, link, settings, Session.isReading, count, finish]

theorem proceed_behind (earlier : List Effect) (turn : Turn) (message : Message) (deadline : Nat)
    (stretch : Stretch) :
    (turn.behind earlier).proceed setup message deadline stretch =
      (turn.proceed setup message deadline stretch).behind earlier := by
  unfold proceed
  cases stage : stretch.stage with
  | waiting wait => simp [behind]
  | finished result =>
    simp only
    rw [← answer_behind]
    simp [behind]

theorem expire_behind (earlier : List Effect) (turn : Turn) (message : Message) :
    (turn.behind earlier).expire setup caller message =
      (turn.expire setup caller message).behind earlier := by
  unfold expire
  rw [← answer_behind]
  rfl

theorem conclude_behind (earlier : List Effect) (turn : Turn) (ending : Ending) :
    (turn.behind earlier).conclude ending = (turn.conclude ending).behind earlier := by
  unfold conclude
  cases ending.tally? with
  | none => exact finish_behind earlier turn ending
  | some tally =>
    simp only [Option.elim_some]
    rw [count_behind, finish_behind]

/-- A move is the same whatever has been done in front of it. -/
theorem Move.fresh {turn after : Turn} {deed : Deed} (move : Move setup caller turn deed after) :
    ∃ alone, Move setup caller turn.fresh deed alone ∧ after = alone.behind turn.effects := by
  -- A turn is a fresh one behind its effects, so it is enough that each move commutes with these.
  rw [← fresh_behind turn] at move
  generalize turn.effects = earlier at move ⊢
  generalize turn.fresh = start at move ⊢
  cases move with
  | malformed reading read =>
    exact ⟨_, .malformed reading read, rejectMalformed_behind earlier start _⟩
  | asked reading read resend =>
    exact ⟨_, .asked reading read resend, repeatAnswer_behind earlier start⟩
  | repeated reading read resend verdict =>
    refine ⟨_, .repeated reading read resend verdict, ?_⟩
    rw [count_behind, repeatAnswer_behind]
  | misplaced reading read resend verdict =>
    refine ⟨_, .misplaced reading read resend verdict, ?_⟩
    rw [count_behind, askAgain_behind]
  | refused reading read resend verdict gate =>
    exact ⟨_, .refused reading read resend verdict gate, answer_behind earlier start _ _⟩
  | dispatched reading read resend verdict gate =>
    exact ⟨_, .dispatched reading read resend verdict gate, proceed_behind earlier start _ _ _⟩
  | resumed busy resumes =>
    exact ⟨_, .resumed busy resumes, proceed_behind earlier start _ _ _⟩
  | late busy expired => exact ⟨_, .late busy expired, expire_behind earlier start _⟩
  | overlong reading =>
    exact ⟨_, .overlong reading, rejectMalformed_behind earlier (start.withBuffer []) _⟩
  | ended reading => exact ⟨_, .ended reading, conclude_behind earlier start _⟩
  | stored buffer => exact ⟨_, .stored buffer, rfl⟩
  | waited reading => exact ⟨_, .waited reading, rfl⟩
  | severed text alive => exact ⟨_, .severed text alive, rfl⟩

end Turn

/-- A move on record; both turns have the effects of this move only. -/
structure Episode where
  before : Turn
  deed : Deed
  after : Turn

/-- A frame is taken up only when it stands in front of some bytes, as the session's delimiter cuts
them. -/
def Episode.Framed (setup : Setup) (episode : Episode) : Prop :=
  ∀ frame, episode.deed.frame? = some frame → ∃ bytes rest,
    Frame.split (Session.messageDelimiter episode.before.settings) setup.maxFrame bytes =
      .frame frame rest

theorem Episode.framed_of_none {setup : Setup} {episode : Episode}
    (none : episode.deed.frame? = none) : episode.Framed setup := by
  intro frame takes
  rw [none] at takes
  cases takes

namespace Turn

/-- Moves that follow each other, the latest first; each takes up a frame that has come, if any. -/
inductive Chain (setup : Setup) (caller : Nat) (start : Turn) : List Episode → Turn → Prop where
  | nil : Chain setup caller start [] start
  | more {past : List Episode} {turn after : Turn} {deed : Deed} :
      Chain setup caller start past turn → Move setup caller turn.fresh deed after →
      Episode.Framed setup ⟨turn.fresh, deed, after⟩ →
      Chain setup caller start (⟨turn.fresh, deed, after⟩ :: past) (after.behind turn.effects)

variable {setup : Setup} {caller : Nat}

theorem Move.chain {turn after : Turn} {deed : Deed} (move : Move setup caller turn deed after)
    (framed : Episode.Framed setup ⟨turn, deed, after⟩) :
    ∃ past, Chain setup caller turn past after := by
  obtain ⟨alone, made, rfl⟩ := move.fresh
  exact ⟨_, .more .nil made framed⟩

theorem Chain.append {start middle last : Turn} {earlier later : List Episode}
    (first : Chain setup caller start earlier middle)
    (second : Chain setup caller middle later last) :
    Chain setup caller start (later ++ earlier) last := by
  induction second with
  | nil => exact first
  | more _ move framed ih => exact .more ih move framed

theorem Chain.framed {start last : Turn} {past : List Episode}
    (chain : Chain setup caller start past last) : ∀ episode ∈ past, episode.Framed setup := by
  induction chain with
  | nil => simp
  | more _ _ framed ih => exact List.forall_mem_cons.mpr ⟨framed, ih⟩

theorem Chain.andThen {start middle last : Turn} {earlier : List Episode}
    (first : Chain setup caller start earlier middle)
    (second : ∃ later, Chain setup caller middle later last) :
    ∃ past, Chain setup caller start past last := by
  obtain ⟨later, second⟩ := second
  exact ⟨_, first.append second⟩

theorem Move.andThen {turn middle last : Turn} {deed : Deed}
    (move : Move setup caller turn deed middle) (unframed : deed.frame? = none)
    (second : ∃ later, Chain setup caller middle later last) :
    ∃ later first, Chain setup caller turn (later ++ [first]) last := by
  obtain ⟨alone, made, rfl⟩ := move.fresh
  obtain ⟨later, second⟩ := second
  have first : Chain setup caller turn _ (alone.behind turn.effects) :=
    .more .nil made (Episode.framed_of_none unframed)
  exact ⟨later, _, first.append second⟩

/-- The effects of a chain are those of its moves, in their order. -/
theorem Chain.effects {start last : Turn} {past : List Episode}
    (chain : Chain setup caller start past last) :
    last.effects = start.effects ++ past.reverse.flatMap (·.after.effects) := by
  induction chain with
  | nil => simp
  | more _ _ _ ih => simp [behind, ih]

/-! What a session does with what it has received is a chain of moves. -/

theorem handleFrame_chain {turn : Turn} (reading : turn.session.isReading = true)
    {bytes frame rest : List UInt8}
    (taken : Frame.split (Session.messageDelimiter turn.settings) setup.maxFrame bytes =
      .frame frame rest) :
    ∃ past, Chain setup caller turn past (turn.handleFrame setup caller frame) := by
  obtain ⟨deed, takes, move⟩ := move_handleFrame setup caller reading frame
  apply move.chain
  intro other same
  cases takes.symm.trans same
  exact ⟨bytes, rest, taken⟩

theorem drain_chain (setup : Setup) (caller : Nat) {turn : Turn}
    (reading : turn.session.isReading = true) (bytes : List UInt8) :
    ∃ past, Chain setup caller turn past (turn.drain setup caller bytes) := by
  -- Each frame is one move; what cannot be taken up yet, or not at all, is one move more.
  fun_induction drain setup caller turn bytes with
  | case1 turn bytes rest => exact (Move.stored rest).chain (Episode.framed_of_none rfl)
  | case2 turn bytes length rest =>
    exact (Move.overlong reading).chain (Episode.framed_of_none rfl)
  | case3 turn bytes frame rest taken next stillReading ih =>
    obtain ⟨past, chain⟩ := handleFrame_chain reading taken
    exact chain.andThen (ih stillReading)
  | case4 turn bytes frame rest taken next busy =>
    obtain ⟨past, chain⟩ := handleFrame_chain reading taken
    exact chain.andThen ((Move.stored rest).chain (Episode.framed_of_none rfl))

theorem settle_chain (turn : Turn) :
    ∃ past, Chain setup caller turn past (turn.settle setup caller) := by
  unfold settle
  by_cases reading : turn.session.isReading = true
  · rw [if_pos reading]
    obtain ⟨past, chain⟩ := drain_chain setup caller reading turn.session.buffer
    dsimp only
    split
    · next stillReading =>
      exact chain.andThen ((Move.waited stillReading).chain (Episode.framed_of_none rfl))
    · exact ⟨past, chain⟩
  · rw [if_neg reading]
    exact ⟨[], .nil⟩

end Turn

/-! Every turn of a session begins with a move. -/

namespace Session

variable {setup : Setup} {caller : Nat}

theorem resume?_chain {session : Session} {shared : Shared} {reply : Reply} {turn : Turn}
    (resumes : session.resume? setup caller shared reply = some turn) :
    ∃ later first, Turn.Chain setup caller (session.turn shared) (later ++ [first]) turn := by
  unfold resume? at resumes
  cases busy : session.activity with
  | handling message wait deadline =>
    rw [busy] at resumes
    obtain ⟨stretch, goes, rfl⟩ := Option.map_eq_some_iff.mp resumes
    have move : Turn.Move setup caller (session.turn shared) (.resumed message reply stretch)
        ((session.turn shared).proceed setup message deadline stretch) := .resumed busy goes
    exact move.andThen rfl (Turn.settle_chain _)
  | _ => simp [busy] at resumes

theorem step?_chain {session : Session} {shared : Shared} {signal : Signal} {turn : Turn}
    (steps : session.step? setup caller shared signal = some turn) :
    ∃ later first, Turn.Chain setup caller (session.turn shared) (later ++ [first]) turn := by
  cases signal with
  | received bytes =>
    simp only [step?, Option.ite_none_right_eq_some, Option.some.injEq] at steps
    obtain ⟨-, rfl⟩ := steps
    have move : Turn.Move setup caller (session.turn shared) .quiet
        ((session.turn shared).withBuffer (session.buffer ++ bytes)) := .stored _
    exact move.andThen rfl (Turn.settle_chain _)
  | hungUp =>
    simp only [step?, Option.ite_none_right_eq_some, Option.some.injEq] at steps
    obtain ⟨reading, rfl⟩ := steps
    have move : Turn.Move setup caller (session.turn shared) (.ended .hungUp)
        ((session.turn shared).conclude .hungUp) := .ended reading
    exact move.andThen rfl ⟨[], .nil⟩
  | readFault text =>
    simp only [step?, Option.ite_none_right_eq_some, Option.some.injEq] at steps
    obtain ⟨reading, rfl⟩ := steps
    have move : Turn.Move setup caller (session.turn shared) (.ended (.readFault text))
        ((session.turn shared).conclude (.readFault text)) := .ended reading
    exact move.andThen rfl ⟨[], .nil⟩
  | idle =>
    unfold step? at steps
    cases activity : session.activity with
    | reading since =>
      simp only [activity, Option.ite_none_right_eq_some, Option.some.injEq] at steps
      obtain ⟨-, rfl⟩ := steps
      have reading : session.isReading = true := by simp [isReading, activity]
      have move : Turn.Move setup caller (session.turn shared) (.ended .idle)
          ((session.turn shared).conclude .idle) := .ended reading
      exact move.andThen rfl ⟨[], .nil⟩
    | _ => simp [activity] at steps
  | linkBroken text =>
    simp only [step?, Option.ite_none_right_eq_some, Option.some.injEq] at steps
    obtain ⟨alive, rfl⟩ := steps
    have move : Turn.Move setup caller (session.turn shared) .quiet
        ({ session with brokenLink := some text }.turn shared) := .severed text alive
    exact move.andThen rfl ⟨[], .nil⟩
  | reply reply => exact resume?_chain steps
  | loginTimeout =>
    simp only [step?, Option.ite_none_right_eq_some] at steps
    exact resume?_chain steps.2
  | deadline =>
    unfold step? at steps
    cases activity : session.activity with
    | handling message wait deadline =>
      simp only [activity, Option.ite_none_right_eq_some, Option.some.injEq] at steps
      obtain ⟨expired, rfl⟩ := steps
      have move : Turn.Move setup caller (session.turn shared) (.late message)
          ((session.turn shared).expire setup caller message) := .late activity expired
      exact move.andThen rfl (Turn.settle_chain _)
    | _ => simp [activity] at steps

end Session

end SelfCheck
