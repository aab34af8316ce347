import SelfCheck.Frame.Stream
import SelfCheck.Proofs.Frame.Split

/-! A stream as a whole: its frames are its pieces, however it comes.

The delimiters of a stream cut it into pieces. A piece that has ended is a frame, without the line
feeds in front of it, unless nothing is left then. Whoever takes the frames off the front of a
buffer after each chunk gets these and no others, as long as no piece is too large.
-/

set_option autoImplicit false

namespace SelfCheck.Frame

variable {delimiter : UInt8} {limit : Nat} {buffer front rest stream : List UInt8}

/-- A piece without the line feeds in front. -/
def dropFeeds (piece : List UInt8) : List UInt8 := piece.dropWhile (· == lineFeed)

/-- What the pieces that have ended say, without those that say nothing. -/
def endedPieces (delimiter : UInt8) (stream : List UInt8) : List (List UInt8) :=
  ((stream.splitOn delimiter).dropLast.map dropFeeds).filter (· ≠ [])

/-- The piece that has not ended. -/
def lastPiece (delimiter : UInt8) (stream : List UInt8) : List UInt8 :=
  dropFeeds ((stream.splitOn delimiter).getLast (List.splitOn_ne_nil delimiter stream))

/-- No piece is too large for a frame. -/
def PiecesFit (delimiter : UInt8) (limit : Nat) (stream : List UInt8) : Prop :=
  ∀ piece ∈ stream.splitOn delimiter, (dropFeeds piece).length ≤ limit

/-- What is in a buffer when some takings have been made from it, one after the other. -/
def leftBehind (buffer : List UInt8) (takings : List Taken) : List UInt8 :=
  (takings.getLast?.map (·.rest)).getD buffer

/-! The pieces, from the first one on. -/

/-- A stream is a piece that has not ended, or a piece with its delimiter in front of a stream. -/
@[elab_as_elim]
theorem piece_induction (delimiter : UInt8) {motive : List UInt8 → Prop}
    (last : ∀ piece, delimiter ∉ piece → motive piece)
    (ended : ∀ piece rest, delimiter ∉ piece → motive rest → motive (piece ++ delimiter :: rest))
    (stream : List UInt8) : motive stream := by
  induction size : stream.length using Nat.strongRecOn generalizing stream with
  | ind n ih =>
    by_cases present : delimiter ∈ stream
    · obtain ⟨piece, rest, rfl, absent⟩ := List.eq_append_cons_of_mem present
      have shorter : rest.length < n := by
        rw [← size, List.length_append, List.length_cons]
        omega
      exact ended piece rest absent (ih rest.length shorter rest rfl)
    · exact last stream present

theorem endedPieces_of_absent (absent : delimiter ∉ stream) : endedPieces delimiter stream = [] := by
  rw [endedPieces, List.splitOn_eq_singleton absent]
  rfl

theorem lastPiece_of_absent (absent : delimiter ∉ stream) :
    lastPiece delimiter stream = dropFeeds stream := by
  simp only [lastPiece, List.splitOn_eq_singleton absent, List.getLast_singleton]

theorem piecesFit_of_absent (absent : delimiter ∉ stream) :
    PiecesFit delimiter limit stream ↔ (dropFeeds stream).length ≤ limit := by
  rw [PiecesFit, List.splitOn_eq_singleton absent, List.forall_mem_singleton]

theorem endedPieces_append_cons (absent : delimiter ∉ front) (rest : List UInt8) :
    endedPieces delimiter (front ++ delimiter :: rest) =
      if dropFeeds front = [] then endedPieces delimiter rest
      else dropFeeds front :: endedPieces delimiter rest := by
  have more := List.splitOn_ne_nil delimiter rest
  rw [endedPieces, List.splitOn_append_cons_self_of_not_mem absent,
    List.dropLast_cons_of_ne_nil more, List.map_cons, List.filter_cons]
  simp only [decide_eq_true_eq, ne_eq, ite_not]
  rfl

theorem lastPiece_append_cons (absent : delimiter ∉ front) (rest : List UInt8) :
    lastPiece delimiter (front ++ delimiter :: rest) = lastPiece delimiter rest := by
  have more := List.splitOn_ne_nil delimiter rest
  simp only [lastPiece, List.splitOn_append_cons_self_of_not_mem absent, List.getLast_cons more]

theorem piecesFit_append_cons (absent : delimiter ∉ front) :
    PiecesFit delimiter limit (front ++ delimiter :: rest) ↔
      (dropFeeds front).length ≤ limit ∧ PiecesFit delimiter limit rest := by
  rw [PiecesFit, List.splitOn_append_cons_self_of_not_mem absent, List.forall_mem_cons]
  rfl

/-! Cutting the front piece off. -/

theorem takeAll_congr {other : List UInt8}
    (same : split delimiter limit buffer = split delimiter limit other) :
    takeAll delimiter limit buffer = takeAll delimiter limit other := by
  cases taken : split delimiter limit other with
  | frame bytes rest => rw [takeAll_of_frame taken, takeAll_of_frame (same.trans taken)]
  | incomplete rest => rw [takeAll_of_incomplete taken, takeAll_of_incomplete (same.trans taken)]
  | tooLarge length rest =>
    rw [takeAll_of_tooLarge taken, takeAll_of_tooLarge (same.trans taken)]

theorem dropFiller_of_absent (absent : delimiter ∉ front) :
    dropFiller delimiter front = dropFeeds front := by
  unfold dropFiller dropFeeds
  induction front with
  | nil => rfl
  | cons b bytes ih =>
    obtain ⟨differs, absent⟩ := List.ne_and_not_mem_of_not_mem_cons absent
    have same : isFiller delimiter b = (b == lineFeed) := by
      simp [isFiller, beq_false_of_ne differs.symm]
    rw [List.dropWhile_cons, List.dropWhile_cons, same, ih absent]

/-- A piece that says nothing goes with its delimiter. -/
theorem takeAll_of_blank (absent : delimiter ∉ front) (blank : dropFeeds front = [])
    (rest : List UInt8) :
    takeAll delimiter limit (front ++ delimiter :: rest) = takeAll delimiter limit rest := by
  apply takeAll_congr
  apply split_congr
  rw [dropFiller_append, dropFiller_of_absent absent, if_pos blank]
  exact List.dropWhile_cons_of_pos (by simp [isFiller])

theorem split_piece (absent : delimiter ∉ front) (spoken : dropFeeds front ≠ [])
    (short : (dropFeeds front).length ≤ limit) (rest : List UInt8) :
    split delimiter limit (front ++ delimiter :: rest) = .frame (dropFeeds front) rest := by
  have part : dropFeeds front <:+ front := List.dropWhile_suffix _
  refine split_eq_frame.mpr ⟨?_, fun member => absent (part.subset member), short⟩
  rw [dropFiller_append, dropFiller_of_absent absent, if_neg spoken]

/-- All that is taken off a stream are its pieces, and the one that has not ended stays. -/
theorem takeAll_eq_pieces (fits : PiecesFit delimiter limit stream) :
    takeAll delimiter limit stream =
      ⟨endedPieces delimiter stream, none, lastPiece delimiter stream⟩ := by
  induction stream using piece_induction delimiter with
  | ended front rest absent ih =>
    obtain ⟨short, fits⟩ := (piecesFit_append_cons absent).mp fits
    have later := ih fits
    rw [endedPieces_append_cons absent, lastPiece_append_cons absent]
    by_cases blank : dropFeeds front = []
    · rw [takeAll_of_blank absent blank, later, if_pos blank]
    · rw [takeAll_of_frame (split_piece absent blank short rest), later, if_neg blank]
  | last piece absent =>
    have part : dropFeeds piece <:+ piece := List.dropWhile_suffix _
    rw [endedPieces_of_absent absent, lastPiece_of_absent absent]
    exact takeAll_of_incomplete (split_eq_incomplete.mpr ⟨dropFiller_of_absent absent,
      fun member => absent (part.subset member), (piecesFit_of_absent absent).mp fits⟩)

/-! More bytes. -/

/-- What is taken off a longer buffer is what is taken off its front and then off the rest with
the other bytes behind it. -/
theorem takeAll_append (whole : (takeAll delimiter limit buffer).oversize = none)
    (more : List UInt8) :
    takeAll delimiter limit (buffer ++ more) =
      { takeAll delimiter limit ((takeAll delimiter limit buffer).rest ++ more) with
        frames := (takeAll delimiter limit buffer).frames ++
          (takeAll delimiter limit ((takeAll delimiter limit buffer).rest ++ more)).frames } := by
  fun_induction takeAll delimiter limit buffer with
  | case1 buffer rest taken => exact takeAll_congr (split_append_of_incomplete taken more)
  | case2 => cases whole
  | case3 buffer bytes rest taken later ih =>
    rw [takeAll_of_frame (split_append_of_frame taken more), ih whole]
    rfl

/-- What is too large stays so. -/
theorem whole_of_append {more : List UInt8}
    (whole : (takeAll delimiter limit (buffer ++ more)).oversize = none) :
    (takeAll delimiter limit buffer).oversize = none := by
  fun_induction takeAll delimiter limit buffer with
  | case1 => rfl
  | case2 buffer length rest taken =>
    obtain ⟨length, left, large⟩ := split_append_of_tooLarge ⟨length, rest, taken⟩ more
    rw [takeAll_of_tooLarge large] at whole
    cases whole
  | case3 buffer bytes rest taken later ih =>
    rw [takeAll_of_frame (split_append_of_frame taken more)] at whole
    exact ih whole

/-- Nothing more can be taken off what is left. -/
theorem takeAll_rest (whole : (takeAll delimiter limit buffer).oversize = none) :
    takeAll delimiter limit (takeAll delimiter limit buffer).rest =
      ⟨[], none, (takeAll delimiter limit buffer).rest⟩ := by
  fun_induction takeAll delimiter limit buffer with
  | case1 buffer rest taken => exact takeAll_of_incomplete (split_incomplete taken)
  | case2 => cases whole
  | case3 buffer bytes rest taken later ih => exact ih whole

theorem leftBehind_cons (buffer : List UInt8) (taken : Taken) (takings : List Taken) :
    leftBehind buffer (taken :: takings) = leftBehind taken.rest takings := by
  cases takings with
  | nil => rfl
  | cons next takings => simp [leftBehind, List.getLast?_cons]

/-- Chunks bring what the whole stream brings. The buffer between two chunks is the rest of all that
has come so far, with nothing in it to take. -/
theorem feed_eq_takeAll {chunks : List (List UInt8)}
    (settled : takeAll delimiter limit buffer = ⟨[], none, buffer⟩)
    (whole : (takeAll delimiter limit (buffer ++ chunks.flatten)).oversize = none)
    (clear : Bool) :
    let takings := feed delimiter limit clear buffer chunks
    let taken := takeAll delimiter limit (buffer ++ chunks.flatten)
    (∀ taking ∈ takings, taking.oversize = none) ∧
      takings.flatMap (·.frames) = taken.frames ∧ leftBehind buffer takings = taken.rest := by
  intro takings taken
  induction chunks generalizing buffer with
  | nil =>
    have same : taken = ⟨[], none, buffer⟩ := by
      simpa only [taken, List.flatten_nil, List.append_nil] using settled
    rw [same]
    exact ⟨fun _ member => (List.not_mem_nil member).elim, rfl, rfl⟩
  | cons chunk chunks ih =>
    rw [List.flatten_cons, ← List.append_assoc] at whole
    have first := whole_of_append whole
    have onward := takeAll_append first chunks.flatten
    have unsettled : (takeAll delimiter limit (buffer ++ chunk)).settled clear =
        takeAll delimiter limit (buffer ++ chunk) := by
      simp [Taken.settled, first]
    have later : (takeAll delimiter limit
        ((takeAll delimiter limit (buffer ++ chunk)).rest ++ chunks.flatten)).oversize = none := by
      rw [onward] at whole
      exact whole
    obtain ⟨unbroken, frames, left⟩ := ih (takeAll_rest first) later
    have takings_eq : takings = takeAll delimiter limit (buffer ++ chunk) ::
        feed delimiter limit clear (takeAll delimiter limit (buffer ++ chunk)).rest chunks := by
      simp only [takings, feed, unsettled]
    have taken_eq : taken = takeAll delimiter limit (buffer ++ chunk ++ chunks.flatten) := by
      rw [List.append_assoc, ← List.flatten_cons]
    rw [takings_eq, taken_eq, onward]
    refine ⟨List.forall_mem_cons.mpr ⟨first, unbroken⟩, ?_, ?_⟩
    · rw [List.flatMap_cons, frames]
    · rw [leftBehind_cons, left]

/-- However a stream is cut into chunks, as long as none of its pieces is too large no taking fails,
the frames taken are the pieces that have ended, and the one that has not ended is left. -/
theorem frames_are_pieces {chunks : List (List UInt8)}
    (fits : PiecesFit delimiter limit chunks.flatten) (clear : Bool) :
    let takings := feed delimiter limit clear [] chunks
    (∀ taking ∈ takings, taking.oversize = none) ∧
      takings.flatMap (·.frames) = endedPieces delimiter chunks.flatten ∧
      leftBehind [] takings = lastPiece delimiter chunks.flatten := by
  have empty : takeAll delimiter limit [] = ⟨[], none, []⟩ :=
    takeAll_of_incomplete (split_nil delimiter limit)
  have taken := takeAll_eq_pieces fits
  have whole : (takeAll delimiter limit ([] ++ chunks.flatten)).oversize = none := by
    rw [List.nil_append, taken]
  have brought := feed_eq_takeAll empty whole clear
  rw [List.nil_append, taken] at brought
  exact brought

/-- Line ends of two bytes, cut in the middle, with a blank line and a message that has not ended. -/
theorem frames_are_pieces_crlf :
    let chunks : List (List UInt8) := [[57, 57, 13], [10, 13, 10, 57], [55, 13, 10, 10], [57]]
    let takings := feed 13 2 true [] chunks
    PiecesFit 13 2 chunks.flatten ∧ (∀ taking ∈ takings, taking.oversize = none) ∧
      takings.flatMap (·.frames) = [[57, 57], [57, 55]] ∧ leftBehind [] takings = [57] := by
  intro chunks takings
  have fits : PiecesFit 13 2 chunks.flatten := by
    unfold PiecesFit
    decide
  obtain ⟨unbroken, frames, left⟩ := frames_are_pieces fits true
  exact ⟨fits, unbroken, frames, left⟩

end SelfCheck.Frame
