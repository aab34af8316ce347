import SelfCheck.Proofs.Frame.Portions
import SelfCheck.Proofs.Session.Chunks

/-! What becomes of the bytes that a session reads.

They fall into portions: what has been handed over frame by frame, and what has been given up
behind it because it was too large. To give something up a session empties its buffer. So where the
loss ends depends on the reads: it takes along whatever came with the same read, and it does not
reach for what comes later, though that may be the rest of the same piece.
-/

set_option autoImplicit false

namespace SelfCheck

namespace Frame

variable {limit : Nat} {bytes more buffer rest : List UInt8} {portion : Portion}
  {portions : List Portion}

/-- An entry of two lists in a row is in the first or in the second one. -/
theorem append_split {α : Type} {first second before after : List α} {entry : α}
    (split : first ++ second = before ++ entry :: after) :
    (∃ middle, first = before ++ entry :: middle) ∨
      ∃ middle, before = first ++ middle ∧ second = middle ++ entry :: after := by
  rcases List.append_eq_append_iff.mp split with inSecond | ⟨middle, rfl, tail⟩
  · exact .inr inSecond
  · cases middle with
    | nil => exact .inr ⟨[], by simp, tail.symm⟩
    | cons found middle =>
      cases tail
      exact .inl ⟨middle, rfl⟩

/-- Nothing is in front of the entry of a list that has only one. -/
theorem singleton_split {α : Type} {only entry : α} {before after : List α}
    (split : [only] = before ++ entry :: after) : before = [] ∧ entry = only := by
  cases before with
  | nil => exact ⟨rfl, (List.cons.inj split).1.symm⟩
  | cons first before => simp at split

/-- What is given up goes to the end of the bytes that came last. Before them only few bytes of it
were there, and no delimiter. -/
def Portion.LostWith (limit : Nat) (portion : Portion) (last : List UInt8) : Prop :=
  ∃ waiting tail, portion.lost = waiting ++ tail ∧ tail <:+ last ∧
    portion.delimiter ∉ waiting ∧ waiting.length ≤ limit

theorem Portion.LostWith.trans {other : List UInt8} (lost : portion.LostWith limit more)
    (part : more <:+ other) : portion.LostWith limit other := by
  obtain ⟨waiting, tail, same, reaches, few⟩ := lost
  exact ⟨waiting, tail, same, reaches.trans part, few⟩

/-- Some bytes, the last of which are new, have been worked off in portions, and a rest stays.
Only at their very end something may have been given up. -/
structure Worked (limit : Nat) (bytes last : List UInt8) (portions : List Portion)
    (buffer : List UInt8) : Prop where
  whole : bytes = portions.flatMap Portion.bytes ++ buffer
  sound : ∀ portion ∈ portions, portion.Sound limit
  lost : ∀ before portion after, portions = before ++ portion :: after → portion.lost ≠ [] →
    before.flatMap Portion.bytes ++ portion.bytes = bytes ∧ portion.LostWith limit last

namespace Worked

theorem nothing (limit : Nat) (buffer more : List UInt8) : Worked limit buffer more [] buffer where
  whole := rfl
  sound := fun _ member => (List.not_mem_nil member).elim
  lost := fun _ _ _ split => by simp at split

/-- A portion without loss comes first. -/
theorem cons (same : bytes = portion.kept ++ rest) (sound : portion.Sound limit)
    (none : portion.lost = []) {last : List UInt8}
    (worked : Worked limit rest last portions buffer) (part : last <:+ more) :
    Worked limit bytes more (portion :: portions) buffer where
  whole := by
    rw [same, List.flatMap_cons, Portion.bytes, none, List.append_nil, List.append_assoc,
      ← worked.whole]
  sound := List.forall_mem_cons.mpr ⟨sound, worked.sound⟩
  lost := by
    intro before other after split some
    cases before with
    | nil =>
      cases split
      exact (some none).elim
    | cons first before =>
      cases split
      obtain ⟨ends, lost⟩ := worked.lost before other after rfl some
      refine ⟨?_, lost.trans part⟩
      rw [same, List.flatMap_cons, Portion.bytes, none, List.append_nil, List.append_assoc, ends]

/-- All the rest is given up. -/
theorem lose (same : bytes = portion.bytes) (sound : portion.Sound limit)
    (lost : portion.LostWith limit more) : Worked limit bytes more [portion] [] where
  whole := by simp [same]
  sound := List.forall_mem_singleton.mpr sound
  lost := by
    intro before other after split some
    obtain ⟨rfl, rfl⟩ := singleton_split split
    exact ⟨same.symm, lost⟩

end Worked

/-- The ledger of all reads: what has been worked off in portions, and what waits. Whatever has
been given up began with a piece that is too large, and went to the end of the read with which
that was found. -/
structure Ledger (limit : Nat) (reads : List (List UInt8)) (portions : List Portion)
    (buffer : List UInt8) : Prop where
  whole : reads.flatten = portions.flatMap Portion.bytes ++ buffer
  sound : ∀ portion ∈ portions, portion.Sound limit
  lost : ∀ before portion after, portions = before ++ portion :: after → portion.lost ≠ [] →
    ∃ earlier chunk later, reads = earlier ++ chunk :: later ∧
      before.flatMap Portion.bytes ++ portion.bytes = (earlier ++ [chunk]).flatten ∧
        portion.LostWith limit chunk

/-- The bytes are part of the last read. -/
def Recent (reads : List (List UInt8)) (bytes : List UInt8) : Prop :=
  ∃ earlier chunk, reads = earlier ++ [chunk] ∧ bytes <:+ chunk

theorem Ledger.work {reads reads' : List (List UInt8)} {added last buffer' : List UInt8}
    {new : List Portion} (ledger : Ledger limit reads portions buffer) (grows : reads <+: reads')
    (all : reads'.flatten = reads.flatten ++ added)
    (worked : Worked limit (buffer ++ added) last new buffer')
    (recent : buffer ++ added = [] ∨ Recent reads' last) :
    Ledger limit reads' (portions ++ new) buffer' where
  whole := by
    rw [all, ledger.whole, List.append_assoc, worked.whole, List.flatMap_append,
      List.append_assoc]
  sound := List.forall_mem_append.mpr ⟨ledger.sound, worked.sound⟩
  lost := by
    intro before portion after split some
    obtain ⟨more, rfl⟩ := grows
    -- A loss stands in the old ledger already, or is the end of what has just been worked off.
    rcases append_split split with ⟨middle, old⟩ | ⟨middle, rfl, new⟩
    · obtain ⟨earlier, chunk, later, rfl, ends, lost⟩ := ledger.lost before portion middle old some
      exact ⟨earlier, chunk, later ++ more, by simp, ends, lost⟩
    · obtain ⟨ends, lost⟩ := worked.lost middle portion after new some
      rcases recent with none | ⟨earlier, chunk, reads, part⟩
      · rw [none, Portion.bytes] at ends
        exact (some (List.append_eq_nil_iff.mp (List.append_eq_nil_iff.mp ends).2).2).elim
      · refine ⟨earlier, chunk, [], reads, ?_, lost.trans part⟩
        rw [← reads, all, ledger.whole, List.flatMap_append, List.append_assoc, ends,
          List.append_assoc]

theorem Ledger.continues {reads : List (List UInt8)} (ledger : Ledger limit reads portions buffer)
    {before after : List Portion} (split : portions = before ++ portion :: after)
    (delimiter : UInt8) :
    Continues delimiter (before.flatMap Portion.bytes) portion.kept reads.flatten := by
  have whole : reads.flatten = before.flatMap Portion.bytes ++ portion.kept ++
      (portion.lost ++ after.flatMap Portion.bytes ++ buffer) := by
    rw [ledger.whole, split]
    simp [Portion.bytes]
  rw [whole]
  exact Frame.continues ..

end Frame

open SelfCheck.Frame (Portion Worked Ledger Recent)

namespace Turn

variable {setup : Setup} {caller : Nat}

/-- The frames that are taken off some bytes and handled, each with the delimiter that is in force
then. -/
def handed (setup : Setup) (caller : Nat) (turn : Turn) (bytes : List UInt8) :
    List (UInt8 × List UInt8) :=
  match _taken : Frame.split (Session.messageDelimiter turn.settings) setup.maxFrame bytes with
  | .incomplete _ => []
  | .tooLarge .. => []
  | .frame frame rest =>
    let next := turn.handleFrame setup caller frame
    (Session.messageDelimiter turn.settings, frame) ::
      if next.session.isReading then handed setup caller next rest else []
termination_by bytes.length
decreasing_by exact Frame.length_rest_lt _taken

theorem handed_of_frame {turn : Turn} {bytes frame rest : List UInt8}
    (taken : Frame.split (Session.messageDelimiter turn.settings) setup.maxFrame bytes =
      .frame frame rest) :
    turn.handed setup caller bytes = (Session.messageDelimiter turn.settings, frame) ::
      if (turn.handleFrame setup caller frame).session.isReading then
        (turn.handleFrame setup caller frame).handed setup caller rest
      else [] := by
  rw [handed]
  split <;> simp_all

theorem handed_of_incomplete {turn : Turn} {bytes rest : List UInt8}
    (taken : Frame.split (Session.messageDelimiter turn.settings) setup.maxFrame bytes =
      .incomplete rest) : turn.handed setup caller bytes = [] := by
  rw [handed]
  split <;> simp_all

theorem handed_of_tooLarge {turn : Turn} {bytes rest : List UInt8} {length : Nat}
    (taken : Frame.split (Session.messageDelimiter turn.settings) setup.maxFrame bytes =
      .tooLarge length rest) : turn.handed setup caller bytes = [] := by
  rw [handed]
  split <;> simp_all

/-- Frame by frame. -/
def handleAll (setup : Setup) (caller : Nat) (turn : Turn) (frames : List (UInt8 × List UInt8)) :
    Turn :=
  frames.foldl (fun turn frame => turn.handleFrame setup caller frame.2) turn

/-- These frames are what is handled, and nothing else is done but for what is too large. -/
theorem drain_handled (turn : Turn) (bytes : List UInt8) :
    let handled := turn.handleAll setup caller (turn.handed setup caller bytes)
    (∃ rest, turn.drain setup caller bytes = handled.withBuffer rest) ∨
      ∃ length, turn.drain setup caller bytes =
        (handled.withBuffer []).rejectMalformed (.tooLarge length setup.maxFrame) := by
  fun_induction Turn.drain setup caller turn bytes with
  | case1 turn bytes rest taken =>
    rw [handed_of_incomplete taken]
    exact .inl ⟨rest, rfl⟩
  | case2 turn bytes length rest taken =>
    rw [handed_of_tooLarge taken]
    exact .inr ⟨length, rfl⟩
  | case3 turn bytes frame rest taken next stillReading ih =>
    rw [handed_of_frame taken, if_pos stillReading]
    exact ih
  | case4 turn bytes frame rest taken next busy =>
    rw [handed_of_frame taken, if_neg busy]
    exact .inl ⟨rest, rfl⟩

/-- The portions in which some bytes are worked off, each cut by the delimiter that is in force
then. -/
def portions (setup : Setup) (caller : Nat) (turn : Turn) (bytes : List UInt8) : List Portion :=
  Frame.portion (Session.messageDelimiter turn.settings) setup.maxFrame bytes ::
    match _taken : Frame.split (Session.messageDelimiter turn.settings) setup.maxFrame bytes with
    | .incomplete _ => []
    | .tooLarge .. => []
    | .frame frame rest =>
      let next := turn.handleFrame setup caller frame
      if next.session.isReading then portions setup caller next rest else []
termination_by bytes.length
decreasing_by exact Frame.length_rest_lt _taken

theorem portions_of_frame {turn : Turn} {bytes frame rest : List UInt8}
    (taken : Frame.split (Session.messageDelimiter turn.settings) setup.maxFrame bytes =
      .frame frame rest) :
    turn.portions setup caller bytes =
      Frame.portion (Session.messageDelimiter turn.settings) setup.maxFrame bytes ::
        if (turn.handleFrame setup caller frame).session.isReading then
          (turn.handleFrame setup caller frame).portions setup caller rest
        else [] := by
  rw [portions]
  split <;> simp_all

theorem portions_of_incomplete {turn : Turn} {bytes rest : List UInt8}
    (taken : Frame.split (Session.messageDelimiter turn.settings) setup.maxFrame bytes =
      .incomplete rest) :
    turn.portions setup caller bytes =
      [Frame.portion (Session.messageDelimiter turn.settings) setup.maxFrame bytes] := by
  rw [portions]
  split <;> simp_all

theorem portions_of_tooLarge {turn : Turn} {bytes rest : List UInt8} {length : Nat}
    (taken : Frame.split (Session.messageDelimiter turn.settings) setup.maxFrame bytes =
      .tooLarge length rest) :
    turn.portions setup caller bytes =
      [Frame.portion (Session.messageDelimiter turn.settings) setup.maxFrame bytes] := by
  rw [portions]
  split <;> simp_all

/-- The frames that are handled are those of the portions. -/
theorem handed_eq_flatMap (turn : Turn) (bytes : List UInt8) :
    turn.handed setup caller bytes =
      (turn.portions setup caller bytes).flatMap Portion.frames := by
  fun_induction Turn.drain setup caller turn bytes with
  | case1 turn bytes rest taken =>
    rw [handed_of_incomplete taken, portions_of_incomplete taken, List.flatMap_singleton]
    exact (Frame.portion_of_incomplete taken).2.2.1.symm
  | case2 turn bytes length rest taken =>
    rw [handed_of_tooLarge taken, portions_of_tooLarge taken, List.flatMap_singleton]
    exact (Frame.portion_of_tooLarge taken).2.2.1.symm
  | case3 turn bytes frame rest taken next stillReading ih =>
    rw [handed_of_frame taken, portions_of_frame taken, if_pos stillReading, if_pos stillReading,
      List.flatMap_cons, (Frame.portion_of_frame taken).2.2.1, ← ih]
    rfl
  | case4 turn bytes frame rest taken next busy =>
    rw [handed_of_frame taken, portions_of_frame taken, if_neg busy, if_neg busy,
      List.flatMap_singleton, (Frame.portion_of_frame taken).2.2.1]

/-- A portion is cut off what the portions in front have left, by the delimiter of the session once
their frames have been handled. -/
theorem portion_of_portions (turn : Turn) (bytes : List UInt8) :
    ∀ front portion back, turn.portions setup caller bytes = front ++ portion :: back →
      portion.delimiter = Session.messageDelimiter
          (turn.handleAll setup caller (front.flatMap Portion.frames)).settings ∧
        ∃ rest, bytes = front.flatMap Portion.bytes ++ rest ∧
          portion = Frame.portion portion.delimiter setup.maxFrame rest := by
  have first (turn : Turn) (bytes : List UInt8) :
      let portion := Frame.portion (Session.messageDelimiter turn.settings) setup.maxFrame bytes
      portion.delimiter = Session.messageDelimiter turn.settings ∧
        ∃ rest, bytes = [] ++ rest ∧
          portion = Frame.portion portion.delimiter setup.maxFrame rest :=
    ⟨Frame.portion_delimiter .., bytes, rfl, by rw [Frame.portion_delimiter]⟩
  fun_induction Turn.drain setup caller turn bytes with
  | case1 turn bytes rest taken =>
    rw [portions_of_incomplete taken]
    intro front portion back split
    obtain ⟨rfl, rfl⟩ := Frame.singleton_split split
    exact first turn bytes
  | case2 turn bytes length rest taken =>
    rw [portions_of_tooLarge taken]
    intro front portion back split
    obtain ⟨rfl, rfl⟩ := Frame.singleton_split split
    exact first turn bytes
  | case3 turn bytes frame rest taken next stillReading ih =>
    obtain ⟨-, none, frames, whole⟩ := Frame.portion_of_frame taken
    rw [portions_of_frame taken, if_pos stillReading]
    rintro (_ | ⟨entry, front⟩) portion back split
    · cases split
      exact first turn bytes
    · obtain ⟨rfl, behind⟩ := List.cons.inj split
      obtain ⟨delimiter, left, rfl, cut⟩ := ih front portion back behind
      rw [List.flatMap_cons, List.flatMap_cons, frames, Portion.bytes, none, List.append_nil]
      exact ⟨delimiter, left, by rwa [List.append_assoc], cut⟩
  | case4 turn bytes frame rest taken next busy =>
    rw [portions_of_frame taken, if_neg busy]
    intro front portion back split
    obtain ⟨rfl, rfl⟩ := Frame.singleton_split split
    exact first turn bytes

/-- The frames of the portions are handled, and nothing else is done but for what is too large. What
is too large is given up, and nothing else is. -/
theorem drain_portions (turn : Turn) (bytes : List UInt8) :
    let portions := turn.portions setup caller bytes
    let handled := turn.handleAll setup caller (portions.flatMap Portion.frames)
    (∃ rest, turn.drain setup caller bytes = handled.withBuffer rest ∧
        bytes = portions.flatMap Portion.bytes ++ rest ∧
        ∀ portion ∈ portions, portion.lost = []) ∨
      ∃ length, turn.drain setup caller bytes =
          (handled.withBuffer []).rejectMalformed (.tooLarge length setup.maxFrame) ∧
        bytes = portions.flatMap Portion.bytes ∧ ∃ portion ∈ portions, portion.lost ≠ [] := by
  fun_induction Turn.drain setup caller turn bytes with
  | case1 turn bytes rest taken =>
    obtain ⟨-, none, frames, whole⟩ := Frame.portion_of_incomplete taken
    rw [portions_of_incomplete taken]
    simp only [List.flatMap_singleton, List.forall_mem_singleton, frames]
    refine .inl ⟨rest, rfl, ?_, none⟩
    rwa [Portion.bytes, none, List.append_nil]
  | case2 turn bytes length rest taken =>
    obtain ⟨-, some, frames, whole⟩ := Frame.portion_of_tooLarge taken
    rw [portions_of_tooLarge taken]
    simp only [List.flatMap_singleton, frames]
    exact .inr ⟨length, rfl, whole, _, List.mem_singleton_self _, some⟩
  | case3 turn bytes frame rest taken next stillReading ih =>
    obtain ⟨-, none, frames, whole⟩ := Frame.portion_of_frame taken
    rw [portions_of_frame taken, if_pos stillReading]
    simp only [List.flatMap_cons, frames, List.forall_mem_cons]
    have first : Portion.bytes (Frame.portion (Session.messageDelimiter turn.settings)
        setup.maxFrame bytes) ++ rest = bytes := by
      rw [Portion.bytes, none, List.append_nil, ← whole]
    rcases ih with ⟨left, drained, same, kept⟩ | ⟨length, drained, same, portion, member, some⟩
    · refine .inl ⟨left, drained, ?_, none, kept⟩
      rw [List.append_assoc, ← same, first]
    · refine .inr ⟨length, drained, ?_, portion, List.mem_cons_of_mem _ member, some⟩
      rw [← same, first]
  | case4 turn bytes frame rest taken next busy =>
    obtain ⟨-, none, frames, whole⟩ := Frame.portion_of_frame taken
    rw [portions_of_frame taken, if_neg busy]
    simp only [List.flatMap_singleton, List.forall_mem_singleton, frames]
    refine .inl ⟨rest, rfl, ?_, none⟩
    rwa [Portion.bytes, none, List.append_nil]

/-- What stands behind a frame is new, when there was no delimiter among the old bytes. -/
theorem rest_suffix {delimiter : UInt8} {limit : Nat} {waiting more frame rest : List UInt8}
    (absent : delimiter ∉ waiting)
    (taken : Frame.split delimiter limit (waiting ++ more) = .frame frame rest) :
    rest <:+ more := by
  obtain ⟨start, -, -⟩ := Frame.split_eq_frame.mp taken
  obtain ⟨whole, -⟩ := Frame.filler_append delimiter (waiting ++ more)
  rw [start, ← List.append_assoc] at whole
  generalize (waiting ++ more).takeWhile _ = filler at whole
  rcases Frame.append_split whole with ⟨middle, rfl⟩ | ⟨middle, -, rfl⟩
  · simp at absent
  · exact (List.suffix_cons delimiter rest).trans (List.suffix_append _ _)

/-- Bytes are worked off in portions. When the session comes to wait for anything but the
terminal, what stays are new bytes. -/
theorem drain_worked (turn : Turn) (bytes : List UInt8) (reading : turn.session.isReading = true) :
    ∀ waiting more, bytes = waiting ++ more →
      Session.messageDelimiter turn.settings ∉ waiting → waiting.length ≤ setup.maxFrame →
      Worked setup.maxFrame bytes more (turn.portions setup caller bytes)
          (turn.drain setup caller bytes).session.buffer ∧
        ((turn.drain setup caller bytes).session.isReading = false →
          (turn.drain setup caller bytes).session.buffer <:+ more) := by
  fun_induction Turn.drain setup caller turn bytes with
  | case1 turn bytes rest taken =>
    intro waiting more whole absent short
    obtain ⟨sound, none, -, same⟩ := Frame.portion_of_incomplete taken
    rw [portions_of_incomplete taken]
    refine ⟨?_, fun busy => absurd (busy.symm.trans reading) (by decide)⟩
    exact .cons same sound none (.nothing _ _ _) List.suffix_rfl
  | case2 turn bytes length rest taken =>
    intro waiting more whole absent short
    obtain ⟨sound, some, -, same⟩ := Frame.portion_of_tooLarge taken
    -- If it began among the bytes that waited, all new bytes are lost with it.
    have lost : (Frame.portion (Session.messageDelimiter turn.settings) setup.maxFrame
        bytes).LostWith setup.maxFrame more := by
      rw [same] at whole
      rcases List.append_eq_append_iff.mp whole with ⟨front, rfl, tail⟩ | ⟨tail, -, rfl⟩
      · refine ⟨front, more, tail, List.suffix_rfl, ?_, ?_⟩
        · rw [Frame.portion_delimiter]
          exact fun member => absent (List.mem_append_right _ member)
        · rw [List.length_append] at short
          omega
      · exact ⟨[], _, rfl, List.suffix_append _ _, List.not_mem_nil, Nat.zero_le _⟩
    have empty : ((turn.withBuffer []).rejectMalformed
        (.tooLarge length setup.maxFrame)).session.buffer = [] := Session.write_buffer ..
    rw [portions_of_tooLarge taken, empty]
    exact ⟨.lose same sound lost, fun _ => List.nil_suffix⟩
  | case3 turn bytes frame rest taken next stillReading ih =>
    intro waiting more whole absent short
    have part := rest_suffix absent (whole ▸ taken)
    obtain ⟨sound, none, -, same⟩ := Frame.portion_of_frame taken
    -- With the frame the bytes that waited are gone.
    obtain ⟨worked, stays⟩ := ih stillReading [] rest rfl List.not_mem_nil (Nat.zero_le _)
    rw [portions_of_frame taken, if_pos stillReading]
    exact ⟨.cons same sound none worked part, fun busy => (stays busy).trans part⟩
  | case4 turn bytes frame rest taken next busy =>
    intro waiting more whole absent short
    have part := rest_suffix absent (whole ▸ taken)
    obtain ⟨sound, none, -, same⟩ := Frame.portion_of_frame taken
    rw [portions_of_frame taken, if_neg busy]
    exact ⟨.cons same sound none (.nothing _ _ _) part, fun _ => part⟩

/-- The frames of what is in a session's buffer. -/
def handedOver (setup : Setup) (caller : Nat) (turn : Turn) : List (UInt8 × List UInt8) :=
  if turn.session.isReading then turn.handed setup caller turn.session.buffer else []

/-- The portions in which what is in a session's buffer is worked off. -/
def workedOff (setup : Setup) (caller : Nat) (turn : Turn) : List Portion :=
  if turn.session.isReading then turn.portions setup caller turn.session.buffer else []

theorem handedOver_eq_flatMap (turn : Turn) :
    turn.handedOver setup caller = (turn.workedOff setup caller).flatMap Portion.frames := by
  unfold handedOver workedOff
  split
  · exact handed_eq_flatMap ..
  · rfl

theorem settle_worked (setup : Setup) (caller : Nat) (turn : Turn) {waiting more : List UInt8}
    (whole : turn.session.buffer = waiting ++ more)
    (old : turn.session.isReading = true → Session.messageDelimiter turn.settings ∉ waiting ∧
      waiting.length ≤ setup.maxFrame)
    (new : turn.session.isReading = false → waiting = []) :
    Worked setup.maxFrame turn.session.buffer more (turn.workedOff setup caller)
        (turn.settle setup caller).session.buffer ∧
      ((turn.settle setup caller).session.isReading = false →
        (turn.settle setup caller).session.buffer <:+ more) := by
  unfold workedOff
  cases reading : turn.session.isReading with
  | true =>
    obtain ⟨absent, short⟩ := old reading
    rw [settle_of_reading reading, if_pos rfl]
    simp only [rest, stock, Session.stocked_isReading, Session.stocked_buffer]
    exact drain_worked turn _ reading waiting more whole absent short
  | false =>
    obtain rfl := new reading
    rw [settle_of_busy reading, if_neg Bool.false_ne_true]
    exact ⟨.nothing _ _ _, fun _ => whole ▸ List.suffix_rfl⟩

end Turn

namespace Session

/-- The bytes that a signal brings. -/
def Signal.bytes? : Signal → Option (List UInt8)
  | received bytes => some bytes
  | _ => none

/-- What the terminal's reads are when a session is told some signals. -/
def reads (signals : List (Shared × Signal)) : List (List UInt8) :=
  signals.filterMap (·.2.bytes?)

variable {setup : Setup} {caller : Nat} {session : Session} {shared : Shared} {signal : Signal}
  {turn opened : Turn}

/-- A session whose request goes on, before it takes up what is in its buffer. -/
def goesOn? (setup : Setup) (caller : Nat) (session : Session) (shared : Shared) (reply : Reply) :
    Option Turn :=
  match session.activity with
  | .handling message wait deadline =>
    (Dispatch.resume? setup caller message wait shared session.context reply).map fun stretch =>
      (session.turn shared).proceed setup message deadline stretch
  | _ => none

/-- The turn that a signal makes a session begin, before it takes up what is in its buffer; none
when it takes up nothing. -/
def opened? (setup : Setup) (caller : Nat) (session : Session) (shared : Shared) :
    Signal → Option Turn
  | .received bytes =>
    if session.isReading && bytes ≠ [] then
      some ((session.turn shared).withBuffer (session.buffer ++ bytes))
    else none
  | .reply reply => session.goesOn? setup caller shared reply
  | .loginTimeout =>
    if loginIsLate shared caller then
      session.goesOn? setup caller shared (.login (.error .timeout))
    else none
  | .deadline =>
    match session.activity with
    | .handling message _ deadline =>
      if deadline ≤ shared.clock then some ((session.turn shared).expire setup caller message)
      else none
    | _ => none
  | _ => none

theorem resume?_eq (session : Session) (shared : Shared) (reply : Reply) :
    session.resume? setup caller shared reply =
      (session.goesOn? setup caller shared reply).map (·.settle setup caller) := by
  unfold resume? goesOn?
  cases session.activity with
  | handling message wait deadline =>
    dsimp only
    rw [Option.map_map]
    rfl
  | _ => rfl

theorem goesOn?_buffer {reply : Reply}
    (opens : session.goesOn? setup caller shared reply = some opened) :
    session.pending?.isSome = true ∧ opened.session.buffer = session.buffer := by
  unfold goesOn? at opens
  split at opens
  · next busy =>
    obtain ⟨stretch, -, rfl⟩ := Option.map_eq_some_iff.mp opens
    rw [pending?_of_handling busy]
    exact ⟨rfl, proceed_buffer _ _ _ _⟩
  · cases opens

/-- What is taken up is what was read, or what was left behind the request. -/
theorem opened?_cases (opens : session.opened? setup caller shared signal = some opened) :
    (∃ chunk, signal = .received chunk ∧ session.isReading = true ∧
        opened = (session.turn shared).withBuffer (session.buffer ++ chunk)) ∨
      signal.bytes? = none ∧ session.pending?.isSome = true ∧
        opened.session.buffer = session.buffer := by
  cases signal with
  | received bytes =>
    simp only [opened?, Option.ite_none_right_eq_some, Option.some.injEq, Bool.and_eq_true]
      at opens
    exact .inl ⟨bytes, rfl, opens.1.1, opens.2.symm⟩
  | reply reply => exact .inr ⟨rfl, goesOn?_buffer opens⟩
  | loginTimeout =>
    simp only [opened?, Option.ite_none_right_eq_some] at opens
    exact .inr ⟨rfl, goesOn?_buffer opens.2⟩
  | deadline =>
    simp only [opened?] at opens
    split at opens
    · next busy =>
      simp only [Option.ite_none_right_eq_some, Option.some.injEq] at opens
      obtain ⟨-, rfl⟩ := opens
      rw [pending?_of_handling busy]
      exact .inr ⟨rfl, rfl, answer_buffer _ _ _⟩
    · cases opens
  | hungUp | readFault | idle | linkBroken => cases opens

/-- A session takes up what is in its buffer, unless the signal ends it or cuts its link. -/
theorem step?_cases (steps : session.step? setup caller shared signal = some turn) :
    (∃ opened, session.opened? setup caller shared signal = some opened ∧
        turn = opened.settle setup caller) ∨
      session.opened? setup caller shared signal = none ∧ signal.bytes? = none ∧
        turn.session.buffer = session.buffer ∧
        (turn.session.ending?.isSome = true ∨
          turn.session.activity = session.activity ∧ turn.session.context = session.context) := by
  cases signal with
  | received bytes =>
    simp only [step?, Option.ite_none_right_eq_some, Option.some.injEq] at steps
    exact .inl ⟨_, if_pos steps.1, steps.2.symm⟩
  | reply reply =>
    rw [step?, resume?_eq] at steps
    obtain ⟨opened, opens, rfl⟩ := Option.map_eq_some_iff.mp steps
    exact .inl ⟨opened, opens, rfl⟩
  | loginTimeout =>
    simp only [step?, resume?_eq, Option.ite_none_right_eq_some] at steps
    obtain ⟨opened, opens, rfl⟩ := Option.map_eq_some_iff.mp steps.2
    exact .inl ⟨opened, (if_pos steps.1).trans opens, rfl⟩
  | deadline =>
    simp only [step?] at steps
    split at steps
    · next busy =>
      simp only [Option.ite_none_right_eq_some, Option.some.injEq] at steps
      refine .inl ⟨_, ?_, steps.2.symm⟩
      simp only [opened?, busy, if_pos steps.1]
      rfl
    · cases steps
  | hungUp =>
    simp only [step?, Option.ite_none_right_eq_some, Option.some.injEq] at steps
    obtain ⟨-, rfl⟩ := steps
    exact .inr ⟨rfl, rfl, rfl, .inl rfl⟩
  | readFault text =>
    simp only [step?, Option.ite_none_right_eq_some, Option.some.injEq] at steps
    obtain ⟨-, rfl⟩ := steps
    exact .inr ⟨rfl, rfl, rfl, .inl rfl⟩
  | idle =>
    simp only [step?] at steps
    split at steps
    · simp only [Option.ite_none_right_eq_some, Option.some.injEq] at steps
      obtain ⟨-, rfl⟩ := steps
      exact .inr ⟨rfl, rfl, rfl, .inl rfl⟩
    · cases steps
  | linkBroken text =>
    simp only [step?, Option.ite_none_right_eq_some, Option.some.injEq] at steps
    obtain ⟨-, rfl⟩ := steps
    exact .inr ⟨rfl, rfl, rfl, .inr ⟨rfl, rfl⟩⟩

/-- The frames that a session hands over when it is told a signal. -/
def takenUp (setup : Setup) (caller : Nat) (session : Session) (shared : Shared)
    (signal : Signal) : List (UInt8 × List UInt8) :=
  ((session.opened? setup caller shared signal).map (·.handedOver setup caller)).getD []

/-- The frames that a session hands over when it is told signals one after the other. -/
def handed (setup : Setup) (caller : Nat) (session : Session) :
    List (Shared × Signal) → List (UInt8 × List UInt8)
  | [] => []
  | (shared, signal) :: rest =>
    session.takenUp setup caller shared signal ++
      ((session.step? setup caller shared signal).map fun turn =>
        turn.session.handed setup caller rest).getD []

/-- The portions in which a session works off its buffer when it is told a signal. -/
def workedOff (setup : Setup) (caller : Nat) (session : Session) (shared : Shared)
    (signal : Signal) : List Portion :=
  ((session.opened? setup caller shared signal).map (·.workedOff setup caller)).getD []

/-- The portions in which a session works off its buffer when it is told signals one after the
other. -/
def portions (setup : Setup) (caller : Nat) (session : Session) :
    List (Shared × Signal) → List Portion
  | [] => []
  | (shared, signal) :: rest =>
    session.workedOff setup caller shared signal ++
      ((session.step? setup caller shared signal).map fun turn =>
        turn.session.portions setup caller rest).getD []

theorem takenUp_eq_flatMap (session : Session) (shared : Shared) (signal : Signal) :
    session.takenUp setup caller shared signal =
      (session.workedOff setup caller shared signal).flatMap Portion.frames := by
  unfold takenUp workedOff
  cases session.opened? setup caller shared signal with
  | none => rfl
  | some opened => exact Turn.handedOver_eq_flatMap opened

theorem handed_eq_flatMap (session : Session) (signals : List (Shared × Signal)) :
    session.handed setup caller signals =
      (session.portions setup caller signals).flatMap Portion.frames := by
  induction signals generalizing session with
  | nil => rfl
  | cons told rest ih =>
    obtain ⟨shared, signal⟩ := told
    rw [handed, portions, takenUp_eq_flatMap, List.flatMap_append]
    cases session.step? setup caller shared signal with
    | none => rfl
    | some turn => exact congrArg (_ ++ ·) (ih turn.session)

/-- A session and the ledger of its reads so far. While it waits for the terminal, no frame is in
its buffer; while it handles a request, there is nothing but what came with the last read. -/
structure Intake (setup : Setup) (reads : List (List UInt8)) (portions : List Portion)
    (session : Session) : Prop where
  ledger : Ledger setup.maxFrame reads portions session.buffer
  settled : session.isReading = true →
    front setup session session.buffer = .incomplete session.buffer
  recent : session.pending?.isSome = true → session.buffer = [] ∨ Recent reads session.buffer

theorem Intake.start {session : Session} (empty : session.buffer = []) :
    Intake setup [] [] session where
  ledger := by
    rw [empty]
    exact ⟨rfl, fun _ member => (List.not_mem_nil member).elim,
      fun _ _ _ split => by simp at split⟩
  settled _ := empty ▸ Frame.split_nil _ _
  recent _ := .inl empty

theorem not_reading_of_pending {session : Session} (pending : session.pending?.isSome = true) :
    session.isReading = false := by
  cases reading : session.isReading with
  | false => rfl
  | true =>
    rw [pending?_of_isReading reading] at pending
    cases pending

theorem Intake.step {reads : List (List UInt8)} {portions : List Portion}
    (intake : Intake setup reads portions session)
    (steps : session.step? setup caller shared signal = some turn) :
    Intake setup (reads ++ signal.bytes?.toList)
      (portions ++ session.workedOff setup caller shared signal) turn.session := by
  rcases step?_cases steps with ⟨opened, opens, rfl⟩ | ⟨closed, silent, same, after⟩
  · have takes : session.workedOff setup caller shared signal = opened.workedOff setup caller := by
      rw [workedOff, opens]
      rfl
    have settled (reading : (opened.settle setup caller).session.isReading = true) :=
      (settle_settled opened reading).2
    rw [takes]
    rcases opened?_cases opens with ⟨chunk, rfl, reading, rfl⟩ | ⟨silent, pending, same⟩
    · -- What waited before the read has no frame in it.
      obtain ⟨-, absent, short⟩ := Frame.split_eq_incomplete.mp (intake.settled reading)
      obtain ⟨worked, stays⟩ := Turn.settle_worked setup caller
        ((session.turn shared).withBuffer (session.buffer ++ chunk)) rfl
        (fun _ => ⟨absent, short⟩) (fun busy => absurd (busy.symm.trans reading) (by decide))
      have last : Recent (reads ++ [chunk]) chunk := ⟨reads, chunk, rfl, List.suffix_rfl⟩
      refine ⟨intake.ledger.work (List.prefix_append _ _) (by simp [Signal.bytes?]) worked
        (.inr last), settled, fun pending => ?_⟩
      exact .inr ⟨reads, chunk, rfl, stays (not_reading_of_pending pending)⟩
    · -- What is left behind a request came with the last read.
      obtain ⟨worked, stays⟩ := Turn.settle_worked setup caller opened
        (List.nil_append _).symm (fun _ => ⟨List.not_mem_nil, Nat.zero_le _⟩) (fun _ => rfl)
      rw [same, ← List.append_nil session.buffer] at worked
      rw [same] at stays
      have recent := intake.recent pending
      rw [silent, Option.toList_none, List.append_nil]
      refine ⟨intake.ledger.work List.prefix_rfl (List.append_nil _).symm worked ?_, settled,
        fun pending => ?_⟩
      · simpa using recent
      · have part := stays (not_reading_of_pending pending)
        rcases recent with none | ⟨earlier, chunk, last, within⟩
        · exact .inl (List.suffix_nil.mp (none ▸ part))
        · exact .inr ⟨earlier, chunk, last, part.trans within⟩
  · have takes : session.workedOff setup caller shared signal = [] := by
      rw [workedOff, closed]
      rfl
    rw [takes, silent, Option.toList_none, List.append_nil, List.append_nil]
    refine ⟨?_, fun reading => ?_, fun pending => ?_⟩
    · rw [same]
      exact intake.ledger
    · rcases after with ended | ⟨kept, context⟩
      · rw [ending?_of_isReading reading] at ended
        cases ended
      · unfold isReading at reading
        rw [kept] at reading
        unfold front
        rw [same, context]
        exact intake.settled reading
    · rw [same]
      rcases after with ended | ⟨kept, -⟩
      · obtain ⟨message, pending⟩ := Option.isSome_iff_exists.mp pending
        obtain ⟨wait, deadline, busy⟩ := handling_of_pending? pending
        simp [ending?, busy] at ended
      · unfold pending? at pending
        rw [kept] at pending
        exact intake.recent pending

theorem Intake.run {reads : List (List UInt8)} {portions : List Portion}
    (intake : Intake setup reads portions session) {signals : List (Shared × Signal)}
    {effects : List Effect} {last : Session}
    (plays : session.play? setup caller signals = some (effects, last)) :
    Intake setup (reads ++ Session.reads signals)
      (portions ++ session.portions setup caller signals) last := by
  induction signals generalizing session reads portions effects with
  | nil =>
    simp only [play?, Option.some.injEq, Prod.mk.injEq] at plays
    obtain ⟨-, rfl⟩ := plays
    simpa [Session.reads, Session.portions] using intake
  | cons told rest ih =>
    obtain ⟨shared, signal⟩ := told
    obtain ⟨turn, steps, onward⟩ := Option.bind_eq_some_iff.mp plays
    obtain ⟨⟨others, final⟩, playsOn, same⟩ := Option.map_eq_some_iff.mp onward
    cases same
    have told : Session.reads ((shared, signal) :: rest) =
        signal.bytes?.toList ++ Session.reads rest := by
      unfold Session.reads
      cases bytes : signal.bytes? <;> simp [bytes]
    rw [told, Session.portions, steps, ← List.append_assoc, ← List.append_assoc]
    exact ih (intake.step steps) playsOn

/-- Every byte that a session reads is handed over in a frame, or given up, or still in its buffer.
The frames that it hands over are the pieces of what is not given up, each once and in order; while
it waits for the terminal, no frame and no more than the limit is left. What is given up begins
with a piece that is too large and goes to the end of the read in which that was found.

Each portion is cut off what is left by the delimiter that is in force at that moment, also one in
which nothing is handed over, and only what is too large by it is given up. With one delimiter all
along, the frames are pieces of the stream in their place, but that behind something given up the
first one may be the rest of a piece. Nothing is given up if no piece is too large; and if all that
is given up ends with a piece, no piece is missing but those within it. -/
theorem reads_accounted {last : Session} {signals : List (Shared × Signal)}
    {effects : List Effect} (empty : session.buffer = [])
    (plays : session.play? setup caller signals = some (effects, last)) :
    let portions := session.portions setup caller signals
    Ledger setup.maxFrame (reads signals) portions last.buffer ∧
    session.handed setup caller signals = portions.flatMap Portion.frames ∧
    (last.isReading = true →
      messageDelimiter last.context.settings ∉ last.buffer ∧
        last.buffer.length ≤ setup.maxFrame) ∧
    (∀ (turn : Turn) (bytes : List UInt8),
      let cut := turn.portions setup caller bytes
      let handled := turn.handleAll setup caller (cut.flatMap Portion.frames)
      ((∃ rest, turn.drain setup caller bytes = handled.withBuffer rest ∧
          bytes = cut.flatMap Portion.bytes ++ rest ∧ ∀ portion ∈ cut, portion.lost = []) ∨
        ∃ length, turn.drain setup caller bytes =
            (handled.withBuffer []).rejectMalformed (.tooLarge length setup.maxFrame) ∧
          bytes = cut.flatMap Portion.bytes ∧ ∃ portion ∈ cut, portion.lost ≠ []) ∧
      ∀ front portion back, cut = front ++ portion :: back →
        portion.delimiter = messageDelimiter
            (turn.handleAll setup caller (front.flatMap Portion.frames)).settings ∧
          ∃ rest, bytes = front.flatMap Portion.bytes ++ rest ∧
            portion = Frame.portion portion.delimiter setup.maxFrame rest) ∧
    ∀ delimiter, (∀ portion ∈ portions, portion.delimiter = delimiter) →
      (∀ before portion after, portions = before ++ portion :: after →
        Frame.Continues delimiter (before.flatMap Portion.bytes) portion.kept
          (reads signals).flatten) ∧
      (Frame.PiecesFit delimiter setup.maxFrame (reads signals).flatten →
        ∀ portion ∈ portions, portion.lost = []) ∧
      ((∀ portion ∈ portions, Frame.Ended delimiter portion.lost) →
        Frame.endedPieces delimiter (reads signals).flatten =
          portions.flatMap (fun portion => Frame.endedPieces delimiter portion.kept ++
            Frame.endedPieces delimiter portion.lost) ++
          Frame.endedPieces delimiter last.buffer) := by
  have intake := (Intake.start empty).run plays
  rw [List.nil_append, List.nil_append] at intake
  have ledger := intake.ledger
  refine ⟨ledger, handed_eq_flatMap session signals, fun reading => ?_,
    fun turn bytes => ⟨turn.drain_portions bytes, turn.portion_of_portions bytes⟩,
    fun delimiter same => ⟨fun before portion after split => ledger.continues split delimiter,
      fun fits => ?_, fun ends => ?_⟩⟩
  · obtain ⟨-, absent, short⟩ := Frame.split_eq_incomplete.mp (intake.settled reading)
    exact ⟨absent, short⟩
  · rw [ledger.whole] at fits
    exact Frame.lost_eq_nil_of_fits ledger.sound same fits
  · rw [ledger.whole]
    exact Frame.endedPieces_portions ledger.sound same ends last.buffer

/-- A terminal sends some reads, and nothing else happens. -/
def sending (reads : List (List UInt8)) : List (Shared × Signal) :=
  reads.map fun bytes =>
    (Desk.shared (Desk.policy false []) (.empty 8), Signal.received bytes)

/-- The overlong piece is given up by the delimiter of the session, and its end is handed over. -/
theorem reads_accounted_overlong :
    let setup : Setup := { Desk.setup with maxFrame := 16 }
    let session := Desk.session (Desk.policy false [])
    let signals := sending [Desk.line "9900302.00" ++ List.replicate 17 120,
      List.replicate 9 120 ++ Desk.line "" ++ Desk.line "97", Desk.line "97" ++ [57]]
    let portions := session.portions setup 0 signals
    session.buffer = [] ∧ (session.play? setup 0 signals).isSome = true ∧
      session.handed setup 0 signals = [(13, "9900302.00".toUTF8.toList),
        (13, List.replicate 9 120), (13, "97".toUTF8.toList), (13, "97".toUTF8.toList)] ∧
      session.handed setup 0 signals = portions.flatMap Portion.frames ∧
      portions = [⟨13, Desk.line "9900302.00", []⟩, ⟨13, [], List.replicate 17 120⟩,
        ⟨13, List.replicate 9 120 ++ Desk.line "", []⟩, ⟨13, Desk.line "97", []⟩, ⟨13, [], []⟩,
        ⟨13, Desk.line "97", []⟩, ⟨13, [], []⟩] ∧
      (∀ portion ∈ portions, portion.delimiter = 13) ∧
      (∀ before portion after, portions = before ++ portion :: after →
        Frame.Continues 13 (before.flatMap Portion.bytes) portion.kept (reads signals).flatten) ∧
      ∃ buffer, Ledger setup.maxFrame (reads signals) portions buffer := by
  intro setup session signals portions
  have plays : (session.play? setup 0 signals).isSome = true := by decide +kernel
  obtain ⟨⟨effects, last⟩, plays'⟩ := Option.isSome_iff_exists.mp plays
  obtain ⟨ledger, handed, -, -, same⟩ := reads_accounted (by decide +kernel) plays'
  have delimiters : ∀ portion ∈ portions, portion.delimiter = 13 := by decide +kernel
  exact ⟨by decide +kernel, plays, by decide +kernel, handed, by decide +kernel, delimiters,
    (same 13 delimiters).1, _, ledger⟩

/-- A piece that is too large costs more than itself. When it is found before it has ended, its end
is taken for a request of its own; when it is found together with what stands behind it, that is
lost. -/
theorem overlong_costs_others :
    let setup : Setup := { Desk.setup with maxFrame := 4 }
    let session := Desk.session (Desk.policy false [])
    let oversize : List UInt8 := List.replicate 6 120
    let piece := "abc".toUTF8.toList
    let ahead := sending [oversize, Desk.line "abc"]
    let behind := sending [oversize ++ Desk.line "" ++ Desk.line "abc"]
    (session.play? setup 0 ahead).isSome = true ∧
      session.handed setup 0 ahead = [(13, piece)] ∧
      piece ∉ Frame.endedPieces 13 (reads ahead).flatten ∧
      (session.play? setup 0 behind).isSome = true ∧
      session.handed setup 0 behind = [] ∧
      piece ∈ Frame.endedPieces 13 (reads behind).flatten ∧ piece.length ≤ setup.maxFrame := by
  decide +kernel

end Session

end SelfCheck
