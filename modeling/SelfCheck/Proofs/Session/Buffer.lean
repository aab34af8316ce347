import SelfCheck.Proofs.Session.Intake

/-! How much a session keeps of what it reads.

Before a session reads it has taken all frames off its buffer, and has given up what is too large.
So there is no more in its buffer than the limit for frames, by the delimiter that is in force then,
and a read adds what it brings. Two checks carry this: one of a piece that has ended, and one of a
piece that has not.
-/

set_option autoImplicit false

namespace SelfCheck

namespace Frame

variable {delimiter : UInt8} {limit : Nat} {buffer bytes rest : List UInt8}

/-- Bytes that can be taken off a buffer as one frame. -/
structure IsFrame (limit : Nat) (delimiter : UInt8) (bytes : List UInt8) : Prop where
  written : bytes ≠ []
  fits : bytes.length ≤ limit
  undelimited : delimiter ∉ bytes
  unfed : bytes.head? ≠ some lineFeed

theorem isFrame_of_split (taken : split delimiter limit buffer = .frame bytes rest) :
    IsFrame limit delimiter bytes := by
  obtain ⟨start, absent, fits⟩ := split_eq_frame.mp taken
  refine ⟨ne_nil_of_dropFiller start, fits, absent, fun first => ?_⟩
  have stops := List.head?_dropWhile_not (· == lineFeed) bytes
  rw [← dropFeeds, dropFeeds_of_dropFiller start, first] at stops
  simp at stops

theorem length_le_of_incomplete (taken : split delimiter limit buffer = .incomplete rest) :
    rest.length ≤ buffer.length := by
  obtain ⟨rfl, -, -⟩ := split_eq_incomplete.mp taken
  exact length_dropFiller_le delimiter buffer

end Frame

namespace Turn

variable {setup : Setup} {caller : Nat}

/-- Whatever is handed over is a frame by the delimiter of its moment. -/
theorem isFrame_of_handed (turn : Turn) (bytes : List UInt8) :
    ∀ entry ∈ turn.handed setup caller bytes,
      Frame.IsFrame setup.maxFrame entry.1 entry.2 := by
  fun_induction Turn.drain setup caller turn bytes with
  | case1 turn bytes rest taken => simp [handed_of_incomplete taken]
  | case2 turn bytes length rest taken => simp [handed_of_tooLarge taken]
  | case3 turn bytes frame rest taken next stillReading ih =>
    rw [handed_of_frame taken, if_pos stillReading]
    exact List.forall_mem_cons.mpr ⟨Frame.isFrame_of_split taken, ih⟩
  | case4 turn bytes frame rest taken next busy =>
    rw [handed_of_frame taken, if_neg busy]
    exact List.forall_mem_singleton.mpr (Frame.isFrame_of_split taken)

/-- The delimiter of a frame is that of the session once the frames in front have been handled. -/
theorem delimiter_of_handed (turn : Turn) (bytes : List UInt8) :
    ∀ front delimiter frame back,
      turn.handed setup caller bytes = front ++ (delimiter, frame) :: back →
        delimiter = Session.messageDelimiter (turn.handleAll setup caller front).settings := by
  fun_induction Turn.drain setup caller turn bytes with
  | case1 turn bytes rest taken => simp [handed_of_incomplete taken]
  | case2 turn bytes length rest taken => simp [handed_of_tooLarge taken]
  | case3 turn bytes first rest taken next stillReading ih =>
    rw [handed_of_frame taken, if_pos stillReading]
    rintro (_ | ⟨entry, front⟩) delimiter frame back split
    · cases split
      rfl
    · obtain ⟨rfl, behind⟩ := List.cons.inj split
      exact ih front delimiter frame back behind
  | case4 turn bytes first rest taken next busy =>
    rw [handed_of_frame taken, if_neg busy]
    rintro (_ | ⟨entry, front⟩) delimiter frame back split
    · cases split
      rfl
    · simp at split

theorem length_drain_le (turn : Turn) (bytes : List UInt8) :
    (turn.drain setup caller bytes).session.buffer.length ≤ bytes.length := by
  fun_induction Turn.drain setup caller turn bytes with
  | case1 turn bytes rest taken => exact Frame.length_le_of_incomplete taken
  | case2 turn bytes length rest taken =>
    have empty : ((turn.withBuffer []).rejectMalformed
        (.tooLarge length setup.maxFrame)).session.buffer = [] := Session.write_buffer ..
    rw [empty]
    exact Nat.zero_le _
  | case3 turn bytes frame rest taken next stillReading ih =>
    exact Nat.le_trans ih (Nat.le_of_lt (Frame.length_rest_lt taken))
  | case4 turn bytes frame rest taken next busy => exact Nat.le_of_lt (Frame.length_rest_lt taken)

/-- Working off a buffer makes it no longer. -/
theorem length_settle_le (turn : Turn) :
    (turn.settle setup caller).session.buffer.length ≤ turn.session.buffer.length := by
  cases reading : turn.session.isReading with
  | true =>
    rw [settle_of_reading reading]
    exact length_drain_le turn _
  | false => exact Nat.le_of_eq (by rw [settle_of_busy reading])

end Turn

namespace Session

variable {setup : Setup} {caller size : Nat} {session last : Session} {shared : Shared}
  {signal : Signal} {signals : List (Shared × Signal)} {turn opened : Turn}

/-- What a session may have in its buffer, when no read brings more than some bytes. -/
structure Bounded (setup : Setup) (size : Nat) (session : Session) : Prop where
  waiting : session.isReading = true → session.buffer.length ≤ setup.maxFrame
  always : session.buffer.length ≤ setup.maxFrame + size

/-- What is to be taken up is not more than that either. -/
theorem Bounded.length_opened_le (bounded : Bounded setup size session)
    (small : ∀ bytes ∈ signal.bytes?, bytes.length ≤ size)
    (opens : session.opened? setup caller shared signal = some opened) :
    opened.session.buffer.length ≤ setup.maxFrame + size := by
  rcases opened?_cases opens with ⟨chunk, rfl, reading, rfl⟩ | ⟨-, -, same⟩
  · calc
      (session.buffer ++ chunk).length = session.buffer.length + chunk.length := List.length_append
      _ ≤ setup.maxFrame + size := Nat.add_le_add (bounded.waiting reading) (small chunk rfl)
  · exact same ▸ bounded.always

theorem Bounded.step (bounded : Bounded setup size session)
    (small : ∀ bytes ∈ signal.bytes?, bytes.length ≤ size)
    (steps : session.step? setup caller shared signal = some turn) :
    Bounded setup size turn.session := by
  rcases step?_cases steps with ⟨opened, opens, rfl⟩ | ⟨-, -, same, after⟩
  · refine ⟨fun reading => ?_,
      Nat.le_trans (Turn.length_settle_le opened) (bounded.length_opened_le small opens)⟩
    -- It reads again, so no frame is in its buffer.
    exact (Frame.split_eq_incomplete.mp (settle_settled opened reading).2).2.2
  · refine ⟨fun reading => ?_, same ▸ bounded.always⟩
    rw [same]
    rcases after with ended | ⟨kept, -⟩
    · rw [ending?_of_isReading reading] at ended
      cases ended
    · apply bounded.waiting
      unfold isReading at reading ⊢
      rwa [← kept]

theorem Bounded.run (bounded : Bounded setup size session)
    (small : ∀ bytes ∈ reads signals, bytes.length ≤ size) {effects : List Effect}
    (plays : session.play? setup caller signals = some (effects, last)) :
    Bounded setup size last := by
  induction signals generalizing session effects with
  | nil =>
    simp only [play?, Option.some.injEq, Prod.mk.injEq] at plays
    obtain ⟨-, rfl⟩ := plays
    exact bounded
  | cons told rest ih =>
    obtain ⟨shared, signal⟩ := told
    obtain ⟨turn, steps, onward⟩ := Option.bind_eq_some_iff.mp plays
    obtain ⟨⟨others, final⟩, playsOn, same⟩ := Option.map_eq_some_iff.mp onward
    cases same
    refine ih (bounded.step (fun bytes brought => small bytes ?_) steps)
      (fun bytes member => small bytes ?_) playsOn
    · exact List.mem_filterMap.mpr ⟨(shared, signal), List.mem_cons_self, brought⟩
    · obtain ⟨entry, told, brought⟩ := List.mem_filterMap.mp member
      exact List.mem_filterMap.mpr ⟨entry, List.mem_cons_of_mem _ told, brought⟩

theorem isFrame_of_takenUp (session : Session) (shared : Shared) (signal : Signal) :
    ∀ entry ∈ session.takenUp setup caller shared signal,
      Frame.IsFrame setup.maxFrame entry.1 entry.2 := by
  unfold takenUp
  cases session.opened? setup caller shared signal with
  | none => simp
  | some opened =>
    simp only [Option.map_some, Option.getD_some, Turn.handedOver]
    split
    · exact Turn.isFrame_of_handed opened _
    · simp

/-- Whatever a session hands over is a frame by the delimiter of its moment. -/
theorem isFrame_of_handed (session : Session) (signals : List (Shared × Signal)) :
    ∀ entry ∈ session.handed setup caller signals,
      Frame.IsFrame setup.maxFrame entry.1 entry.2 := by
  induction signals generalizing session with
  | nil => simp [handed]
  | cons told rest ih =>
    obtain ⟨shared, signal⟩ := told
    rw [handed, List.forall_mem_append]
    refine ⟨isFrame_of_takenUp session shared signal, ?_⟩
    cases session.step? setup caller shared signal with
    | none => simp
    | some turn => exact ih turn.session

/-- A session that is about to read has no more in its buffer than the limit for frames, and a read
adds no more than it brings. Every frame that it handles has some bytes, no more than the limit and
none like the delimiter that is in force when it is cut off, and begins with no line feed. -/
theorem buffer_stays_small {effects : List Effect} (empty : session.buffer = [])
    (plays : session.play? setup caller signals = some (effects, last)) :
    (last.isReading = true → last.buffer.length ≤ setup.maxFrame) ∧
    (∀ size, (∀ bytes ∈ reads signals, bytes.length ≤ size) →
      last.buffer.length ≤ setup.maxFrame + size ∧
        ∀ shared chunk opened, chunk.length ≤ size →
          last.opened? setup caller shared (.received chunk) = some opened →
            opened.session.buffer = last.buffer ++ chunk ∧
              opened.session.buffer.length ≤ setup.maxFrame + size) ∧
    (∀ entry ∈ session.handed setup caller signals,
      Frame.IsFrame setup.maxFrame entry.1 entry.2) ∧
    ∀ (turn : Turn) (bytes : List UInt8),
      let frames := turn.handed setup caller bytes
      let handled := turn.handleAll setup caller frames
      ((∃ rest, turn.drain setup caller bytes = handled.withBuffer rest) ∨
        ∃ length, turn.drain setup caller bytes =
          (handled.withBuffer []).rejectMalformed (.tooLarge length setup.maxFrame)) ∧
      ∀ front delimiter frame back, frames = front ++ (delimiter, frame) :: back →
        delimiter = messageDelimiter (turn.handleAll setup caller front).settings := by
  have start (size : Nat) : Bounded setup size session :=
    ⟨fun _ => empty ▸ Nat.zero_le _, empty ▸ Nat.zero_le _⟩
  refine ⟨fun reading => ?_, fun size small => ?_, isFrame_of_handed session signals,
    fun turn bytes => ⟨turn.drain_handled bytes, turn.delimiter_of_handed bytes⟩⟩
  · -- Some size bounds the reads of this run.
    have small : ∀ bytes ∈ reads signals, bytes.length ≤ (reads signals).flatten.length :=
      fun bytes member => (List.sublist_flatten_of_mem member).length_le
    exact ((start _).run small plays).waiting reading
  · have bounded := (start size).run small plays
    refine ⟨bounded.always, fun shared chunk opened few opens => ⟨?_, ?_⟩⟩
    · obtain ⟨-, begins⟩ := Option.ite_none_right_eq_some.mp opens
      cases begins
      rfl
    · refine bounded.length_opened_le ?_ opens
      rintro bytes ⟨⟩
      exact few

/-- A login changes the delimiter while two requests wait behind it. -/
theorem buffer_stays_small_switching :
    let setup : Setup := { switching with maxFrame := 24 }
    let shared := Desk.shared switched (.empty 8)
    let session := (start setup shared "s" Desk.terminal 6443).session
    let signals : List (Shared × Signal) := [(shared, .received pipelined),
      (Desk.shared switched (Desk.awaited 0), .reply (.login (.ok Desk.token))),
      (shared, .received (Desk.line "\n99"))]
    session.buffer = [] ∧ (∀ bytes ∈ reads signals, bytes.length ≤ 4096) ∧
      session.handed setup 0 signals = [(13, "9300CNu|COp|CPm|".toUTF8.toList),
        (126, "9900302.00".toUTF8.toList), (126, "9900802.00".toUTF8.toList)] ∧
      (∀ entry ∈ session.handed setup 0 signals, Frame.IsFrame setup.maxFrame entry.1 entry.2) ∧
      ∃ effects last opened, session.play? setup 0 signals = some (effects, last) ∧
        last.isReading = true ∧ last.buffer.length ≤ setup.maxFrame ∧
        last.opened? setup 0 shared (.received pipelined) = some opened ∧
        opened.session.buffer.length ≤ setup.maxFrame + 4096 := by
  intro setup shared session signals
  have played : (session.play? setup 0 signals).any (·.2.isReading) = true := by decide +kernel
  obtain ⟨⟨effects, last⟩, plays, reading⟩ := (Option.any_eq_true _ _).mp played
  have empty : session.buffer = [] := by decide +kernel
  have small : ∀ bytes ∈ reads signals, bytes.length ≤ 4096 := by decide +kernel
  obtain ⟨waiting, after, frames, -⟩ := buffer_stays_small empty plays
  have opens : last.opened? setup 0 shared (.received pipelined) =
      some ((last.turn shared).withBuffer (last.buffer ++ pipelined)) := by
    have some : pipelined ≠ [] := by decide +kernel
    simp [opened?, some, show last.isReading = true from reading]
  exact ⟨empty, small, by decide +kernel, frames, effects, last, _, plays, reading,
    waiting reading, opens, ((after 4096 small).2 _ _ _ (by decide +kernel) opens).2⟩

end Session

end SelfCheck
