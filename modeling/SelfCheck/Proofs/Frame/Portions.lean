import SelfCheck.Proofs.Frame.Pieces

/-! What becomes of a stream some of whose pieces are too large.

A stream falls into portions. A portion has pieces that have all ended, and behind them there may be
something that is too large and is given up. What is too large begins at a piece, but need not end
with one: then the next portion begins with the rest of a piece.
-/

set_option autoImplicit false

namespace SelfCheck.Frame

variable {delimiter : UInt8} {limit : Nat} {front rest stream more : List UInt8}

/-! Pieces behind pieces that have ended. -/

/-- All pieces of a stream have ended, but for line feeds behind them. -/
def Ended (delimiter : UInt8) (stream : List UInt8) : Prop := lastPiece delimiter stream = []

theorem dropFeeds_append (blank : dropFeeds front = []) (more : List UInt8) :
    dropFeeds (front ++ more) = dropFeeds more := by
  unfold dropFeeds at blank ⊢
  rw [List.dropWhile_append, blank]
  rfl

theorem dropFeeds_append_of_ne_nil (spoken : dropFeeds front ≠ []) (more : List UInt8) :
    dropFeeds (front ++ more) = dropFeeds front ++ more := by
  unfold dropFeeds at spoken ⊢
  rw [List.dropWhile_append, if_neg (by simpa using spoken)]

/-- Line feeds in front of a piece do not count. -/
theorem pieces_append_of_blank (absent : delimiter ∉ front) (blank : dropFeeds front = [])
    (limit : Nat) (more : List UInt8) :
    endedPieces delimiter (front ++ more) = endedPieces delimiter more ∧
      lastPiece delimiter (front ++ more) = lastPiece delimiter more ∧
      (PiecesFit delimiter limit (front ++ more) ↔ PiecesFit delimiter limit more) := by
  by_cases present : delimiter ∈ more
  · -- The line feeds are in front of the first piece of the rest, and drop off it.
    obtain ⟨piece, rest, rfl, clear⟩ := List.eq_append_cons_of_mem present
    have whole : delimiter ∉ front ++ piece := by simp [absent, clear]
    rw [← List.append_assoc, endedPieces_append_cons whole, lastPiece_append_cons whole,
      piecesFit_append_cons whole, dropFeeds_append blank, endedPieces_append_cons clear,
      lastPiece_append_cons clear, piecesFit_append_cons clear]
    exact ⟨rfl, rfl, Iff.rfl⟩
  · have whole : delimiter ∉ front ++ more := by simp [absent, present]
    rw [endedPieces_of_absent whole, lastPiece_of_absent whole, piecesFit_of_absent whole,
      dropFeeds_append blank, endedPieces_of_absent present, lastPiece_of_absent present,
      piecesFit_of_absent present]
    exact ⟨rfl, rfl, Iff.rfl⟩

/-- The pieces of a stream are those of a part whose pieces have ended and those of the rest. -/
theorem Ended.pieces_append (ended : Ended delimiter front) (limit : Nat) (more : List UInt8) :
    endedPieces delimiter (front ++ more) =
        endedPieces delimiter front ++ endedPieces delimiter more ∧
      lastPiece delimiter (front ++ more) = lastPiece delimiter more ∧
      (PiecesFit delimiter limit (front ++ more) ↔
        PiecesFit delimiter limit front ∧ PiecesFit delimiter limit more) := by
  induction front using piece_induction delimiter with
  | ended piece rest absent ih =>
    rw [Ended, lastPiece_append_cons absent] at ended
    obtain ⟨pieces, last, fits⟩ := ih ended
    rw [List.append_assoc, List.cons_append, endedPieces_append_cons absent,
      endedPieces_append_cons absent, lastPiece_append_cons absent,
      piecesFit_append_cons absent, piecesFit_append_cons absent, pieces, last, fits, and_assoc]
    refine ⟨?_, rfl, Iff.rfl⟩
    split <;> rfl
  | last piece absent =>
    rw [Ended, lastPiece_of_absent absent] at ended
    obtain ⟨pieces, last, fits⟩ := pieces_append_of_blank absent ended limit more
    refine ⟨by rw [pieces, endedPieces_of_absent absent, List.nil_append], last, ?_⟩
    rw [fits, piecesFit_of_absent absent, ended]
    simp

theorem Ended.append {more : List UInt8} (ended : Ended delimiter front)
    (ended' : Ended delimiter more) : Ended delimiter (front ++ more) :=
  (ended.pieces_append 0 more).2.1.trans ended'

theorem ended_nil (delimiter : UInt8) : Ended delimiter [] :=
  lastPiece_of_absent List.not_mem_nil

theorem endedPieces_nil (delimiter : UInt8) : endedPieces delimiter [] = [] :=
  endedPieces_of_absent List.not_mem_nil

theorem piecesFit_nil (delimiter : UInt8) (limit : Nat) : PiecesFit delimiter limit [] :=
  (piecesFit_of_absent List.not_mem_nil).mpr (Nat.zero_le limit)

/-- Filler is made of pieces that have ended and say nothing. -/
theorem filler_pieces (filler : ∀ b ∈ front, isFiller delimiter b = true) (limit : Nat) :
    Ended delimiter front ∧ endedPieces delimiter front = [] ∧
      PiecesFit delimiter limit front := by
  induction front with
  | nil => exact ⟨ended_nil _, endedPieces_nil _, piecesFit_nil _ _⟩
  | cons b front ih =>
    obtain ⟨first, filler⟩ := List.forall_mem_cons.mp filler
    obtain ⟨ended, none, fits⟩ := ih filler
    by_cases ends : b = delimiter
    · subst ends
      have behind : b :: front = [] ++ b :: front := rfl
      rw [Ended, behind, lastPiece_append_cons List.not_mem_nil,
        endedPieces_append_cons List.not_mem_nil, piecesFit_append_cons List.not_mem_nil,
        if_pos (show dropFeeds [] = [] from rfl)]
      exact ⟨ended, none, Nat.zero_le _, fits⟩
    · have feed : b = lineFeed := by simpa [isFiller, ends] using first
      have absent : delimiter ∉ [b] := by simpa using Ne.symm ends
      have blank : dropFeeds [b] = [] := by simp [dropFeeds, feed]
      obtain ⟨pieces, last, fits'⟩ := pieces_append_of_blank absent blank limit front
      exact ⟨last.trans ended, pieces.trans none, fits'.mpr fits⟩

/-! Pieces behind any bytes: the first of them may have begun before. -/

/-- Bytes end with the beginning of a piece. -/
theorem exists_beginning (delimiter : UInt8) (stream : List UInt8) :
    ∃ done beginning, stream = done ++ beginning ∧ Ended delimiter done ∧
      delimiter ∉ beginning := by
  induction stream using piece_induction delimiter with
  | ended piece rest absent ih =>
    obtain ⟨done, beginning, rfl, ended, clear⟩ := ih
    refine ⟨piece ++ delimiter :: done, beginning, by simp, ?_, clear⟩
    rwa [Ended, lastPiece_append_cons absent]
  | last piece absent => exact ⟨[], piece, rfl, ended_nil _, absent⟩

/-- The pieces of a part of a stream are pieces of the stream in their place. Only the first one may
be the rest of a piece that has begun in front of the part. -/
def Continues (delimiter : UInt8) (front part stream : List UInt8) : Prop :=
  ∃ rests wholes pieces,
    endedPieces delimiter part = rests ++ pieces ∧
    endedPieces delimiter front ++ wholes ++ pieces <+: endedPieces delimiter stream ∧
    rests.length ≤ 1 ∧ wholes.length ≤ 1 ∧ (∀ rest ∈ rests, ∃ piece ∈ wholes, rest <:+ piece) ∧
    (Ended delimiter front → rests = wholes)

theorem endedPieces_append_cons_eq (absent : delimiter ∉ front) (rest : List UInt8) :
    endedPieces delimiter (front ++ delimiter :: rest) =
      [dropFeeds front].filter (· ≠ []) ++ endedPieces delimiter rest := by
  rw [endedPieces_append_cons absent]
  by_cases blank : dropFeeds front = [] <;> simp [blank]

/-- Pieces that have ended stay. -/
theorem endedPieces_stay (delimiter : UInt8) (stream more : List UInt8) :
    endedPieces delimiter stream <+: endedPieces delimiter (stream ++ more) := by
  obtain ⟨done, beginning, rfl, ended, clear⟩ := exists_beginning delimiter stream
  rw [List.append_assoc, (ended.pieces_append 0 beginning).1, (ended.pieces_append 0 _).1,
    endedPieces_of_absent clear, List.append_nil]
  exact List.prefix_append _ _

/-- The rest of a piece is the end of it. -/
theorem dropFeeds_suffix (front tail : List UInt8) :
    dropFeeds tail <:+ dropFeeds (front ++ tail) := by
  by_cases blank : dropFeeds front = []
  · exact ⟨[], (dropFeeds_append blank tail).symm⟩
  · rw [dropFeeds_append_of_ne_nil blank]
    exact (List.dropWhile_suffix _).trans (List.suffix_append _ _)

theorem continues (delimiter : UInt8) (front part more : List UInt8) :
    Continues delimiter front part (front ++ part ++ more) := by
  obtain ⟨done, beginning, rfl, ended, clear⟩ := exists_beginning delimiter front
  have before : endedPieces delimiter (done ++ beginning) = endedPieces delimiter done := by
    rw [(ended.pieces_append 0 beginning).1, endedPieces_of_absent clear, List.append_nil]
  by_cases present : delimiter ∈ part
  · -- The first delimiter of the part ends the piece that has begun in front of it.
    obtain ⟨tail, rest, rfl, absent⟩ := List.eq_append_cons_of_mem present
    have spans : delimiter ∉ beginning ++ tail := by simp [clear, absent]
    refine ⟨[dropFeeds tail].filter (· ≠ []), [dropFeeds (beginning ++ tail)].filter (· ≠ []),
      endedPieces delimiter rest, endedPieces_append_cons_eq absent rest, ?_,
      List.length_filter_le _ _, List.length_filter_le _ _, ?_, ?_⟩
    · have whole : done ++ beginning ++ (tail ++ delimiter :: rest) ++ more =
          done ++ (beginning ++ tail ++ delimiter :: (rest ++ more)) := by simp
      rw [whole, before, (ended.pieces_append 0 _).1, endedPieces_append_cons_eq spans,
        List.append_assoc]
      exact (List.prefix_append_right_inj _).mpr
        ((List.prefix_append_right_inj _).mpr (endedPieces_stay delimiter rest more))
    · intro remnant member
      obtain ⟨same, spoken⟩ := List.mem_filter.mp member
      obtain rfl := List.mem_singleton.mp same
      have part := dropFeeds_suffix beginning tail
      refine ⟨_, List.mem_filter.mpr ⟨List.mem_singleton_self _, ?_⟩, part⟩
      rw [decide_eq_true_eq] at spoken ⊢
      exact fun blank => spoken (List.suffix_nil.mp (blank ▸ part))
    · intro ended'
      rw [Ended, (ended.pieces_append 0 beginning).2.1, lastPiece_of_absent clear] at ended'
      rw [dropFeeds_append ended']
  · refine ⟨[], [], [], endedPieces_of_absent present, ?_, by simp, by simp, by simp, fun _ => rfl⟩
    rw [List.append_nil, List.append_nil, List.append_assoc]
    exact endedPieces_stay ..

/-! Portions. -/

/-- A part of a stream: pieces that have all ended, and what has been given up behind them. -/
structure Portion where
  delimiter : UInt8
  kept : List UInt8
  lost : List UInt8
  deriving DecidableEq

/-- A beginning that is too large whatever comes behind it: more bytes than there may be, without
the line feeds in front, and no delimiter. -/
def Overlong (delimiter : UInt8) (limit : Nat) (stream : List UInt8) : Prop :=
  ∃ front back, stream = front ++ back ∧ delimiter ∉ front ∧ limit < (dropFeeds front).length

namespace Portion

def bytes (portion : Portion) : List UInt8 := portion.kept ++ portion.lost

/-- The frames that have been taken off, each with the delimiter that was in force. -/
def frames (portion : Portion) : List (UInt8 × List UInt8) :=
  (endedPieces portion.delimiter portion.kept).map (portion.delimiter, ·)

/-- Nothing is kept that is too large, and nothing given up that is not. -/
structure Sound (limit : Nat) (portion : Portion) : Prop where
  ended : Ended portion.delimiter portion.kept
  fits : PiecesFit portion.delimiter limit portion.kept
  large : portion.lost ≠ [] → Overlong portion.delimiter limit portion.lost

end Portion

theorem Overlong.not_fits (large : Overlong delimiter limit stream) (more : List UInt8) :
    ¬PiecesFit delimiter limit (stream ++ more) := by
  obtain ⟨front, back, rfl, absent, large⟩ := large
  have spoken : dropFeeds front ≠ [] := by
    intro blank
    rw [blank] at large
    exact Nat.not_lt_zero _ large
  rw [List.append_assoc]
  -- The first piece of the whole has the beginning in it.
  by_cases present : delimiter ∈ back ++ more
  · obtain ⟨piece, rest, whole, clear⟩ := List.eq_append_cons_of_mem present
    rw [whole, ← List.append_assoc, piecesFit_append_cons (by simp [absent, clear]),
      dropFeeds_append_of_ne_nil spoken, List.length_append]
    omega
  · rw [piecesFit_of_absent (by simpa [absent] using present),
      dropFeeds_append_of_ne_nil spoken, List.length_append]
    omega

/-! A stream in portions that were all cut by one delimiter. -/

/-- Where no piece is too large, nothing is given up. -/
theorem lost_eq_nil_of_fits {portions : List Portion}
    (sound : ∀ portion ∈ portions, portion.Sound limit)
    (same : ∀ portion ∈ portions, portion.delimiter = delimiter)
    (fits : PiecesFit delimiter limit (portions.flatMap Portion.bytes ++ more)) :
    ∀ portion ∈ portions, portion.lost = [] := by
  induction portions with
  | nil => exact fun _ none => (List.not_mem_nil none).elim
  | cons portion portions ih =>
    obtain ⟨first, sound⟩ := List.forall_mem_cons.mp sound
    obtain ⟨rfl, same⟩ := List.forall_mem_cons.mp same
    rw [List.flatMap_cons, Portion.bytes, List.append_assoc, List.append_assoc,
      (first.ended.pieces_append limit _).2.2] at fits
    -- What is given up would begin with a piece that does not fit.
    have none : portion.lost = [] := by
      by_cases some : portion.lost = []
      · exact some
      · exact ((first.large some).not_fits _ fits.2).elim
    rw [none, List.nil_append] at fits
    exact List.forall_mem_cons.mpr ⟨none, ih sound same fits.2⟩

/-- Where all that is given up ends with a piece, the pieces of the stream are those that are kept
and those that are given up. -/
theorem endedPieces_portions {portions : List Portion}
    (sound : ∀ portion ∈ portions, portion.Sound limit)
    (same : ∀ portion ∈ portions, portion.delimiter = delimiter)
    (ends : ∀ portion ∈ portions, Ended delimiter portion.lost) (more : List UInt8) :
    endedPieces delimiter (portions.flatMap Portion.bytes ++ more) =
      portions.flatMap (fun portion =>
        endedPieces delimiter portion.kept ++ endedPieces delimiter portion.lost) ++
        endedPieces delimiter more := by
  induction portions with
  | nil => rfl
  | cons portion portions ih =>
    obtain ⟨first, sound⟩ := List.forall_mem_cons.mp sound
    obtain ⟨rfl, same⟩ := List.forall_mem_cons.mp same
    obtain ⟨ended, ends⟩ := List.forall_mem_cons.mp ends
    rw [List.flatMap_cons, List.flatMap_cons, Portion.bytes, List.append_assoc,
      ((first.ended.append ended).pieces_append limit _).1, (first.ended.pieces_append limit _).1,
      ih sound same ends]
    simp only [List.append_assoc]

/-! What is at the front of a buffer makes a portion. -/

variable {buffer bytes : List UInt8}

theorem filler_append (delimiter : UInt8) (buffer : List UInt8) :
    let filler := buffer.takeWhile (isFiller delimiter)
    buffer = filler ++ dropFiller delimiter buffer ∧
      ∀ b ∈ filler, isFiller delimiter b = true :=
  ⟨List.takeWhile_append_dropWhile.symm,
    fun b member => List.all_eq_true.mp List.all_takeWhile b member⟩

/-- What stands behind filler does not begin with a line feed. -/
theorem dropFeeds_of_dropFiller (start : dropFiller delimiter buffer = front ++ rest) :
    dropFeeds front = front := by
  cases front with
  | nil => rfl
  | cons b front =>
    have stops := List.head?_dropWhile_not (isFiller delimiter) buffer
    rw [← dropFiller, start] at stops
    have spoken : isFiller delimiter b = false := by simpa using stops
    unfold isFiller at spoken
    exact List.dropWhile_cons_of_neg (by simp_all)

theorem ne_nil_of_dropFiller (start : dropFiller delimiter buffer = front ++ delimiter :: rest) :
    front ≠ [] := by
  rintro rfl
  have stops := List.head?_dropWhile_not (isFiller delimiter) buffer
  rw [← dropFiller, start] at stops
  simp [isFiller] at stops

/-- What one look at a buffer works off: the filler in front, with it the frame behind it if there
is one, and all that is there when what stands behind the filler is too large. -/
def portion (delimiter : UInt8) (limit : Nat) (buffer : List UInt8) : Portion :=
  let filler := buffer.takeWhile (isFiller delimiter)
  match split delimiter limit buffer with
  | .frame bytes _ => ⟨delimiter, filler ++ (bytes ++ [delimiter]), []⟩
  | .incomplete _ => ⟨delimiter, filler, []⟩
  | .tooLarge .. => ⟨delimiter, filler, dropFiller delimiter buffer⟩

@[simp] theorem portion_delimiter (delimiter : UInt8) (limit : Nat) (buffer : List UInt8) :
    (portion delimiter limit buffer).delimiter = delimiter := by
  unfold portion
  split <;> rfl

theorem portion_of_frame (taken : split delimiter limit buffer = .frame bytes rest) :
    let portion := portion delimiter limit buffer
    portion.Sound limit ∧ portion.lost = [] ∧ portion.frames = [(delimiter, bytes)] ∧
      buffer = portion.kept ++ rest := by
  obtain ⟨start, absent, short⟩ := split_eq_frame.mp taken
  obtain ⟨whole, blank⟩ := filler_append delimiter buffer
  obtain ⟨ended, none, fits⟩ := filler_pieces blank limit
  have spoken := ne_nil_of_dropFiller start
  have same := dropFeeds_of_dropFiller start
  obtain ⟨pieces, last, fits'⟩ := ended.pieces_append limit (bytes ++ [delimiter])
  rw [none, endedPieces_append_cons absent, same, if_neg spoken, endedPieces_nil] at pieces
  rw [lastPiece_append_cons absent] at last
  rw [piecesFit_append_cons absent, same] at fits'
  simp only [portion, taken]
  refine ⟨⟨?_, ?_, ?_⟩, trivial, ?_, ?_⟩
  · exact last.trans (ended_nil _)
  · exact fits'.mpr ⟨fits, short, piecesFit_nil _ _⟩
  · exact fun some => (some rfl).elim
  · rw [Portion.frames, pieces]
    rfl
  · rw [start] at whole
    rw [List.append_assoc, List.append_assoc]
    exact whole

theorem portion_of_incomplete (taken : split delimiter limit buffer = .incomplete rest) :
    let portion := portion delimiter limit buffer
    portion.Sound limit ∧ portion.lost = [] ∧ portion.frames = [] ∧
      buffer = portion.kept ++ rest := by
  obtain ⟨rfl, -, -⟩ := split_eq_incomplete.mp taken
  obtain ⟨whole, blank⟩ := filler_append delimiter buffer
  obtain ⟨ended, none, fits⟩ := filler_pieces blank limit
  simp only [portion, taken]
  refine ⟨⟨ended, fits, fun some => (some rfl).elim⟩, trivial, ?_, whole⟩
  rw [Portion.frames, none]
  rfl

theorem portion_of_tooLarge {length : Nat}
    (taken : split delimiter limit buffer = .tooLarge length rest) :
    let portion := portion delimiter limit buffer
    portion.Sound limit ∧ portion.lost ≠ [] ∧ portion.frames = [] ∧ buffer = portion.bytes := by
  obtain ⟨front, back, start, absent, large⟩ := split_tooLarge_iff.mp ⟨length, rest, taken⟩
  obtain ⟨whole, blank⟩ := filler_append delimiter buffer
  obtain ⟨ended, none, fits⟩ := filler_pieces blank limit
  simp only [portion, taken]
  refine ⟨⟨ended, fits, fun _ => ?_⟩, ?_, ?_, whole⟩
  · exact ⟨front, back, start, absent, by rwa [dropFeeds_of_dropFiller start]⟩
  · intro empty
    rw [start] at empty
    rw [(List.append_eq_nil_iff.mp empty).1] at large
    exact Nat.not_lt_zero _ large
  · rw [Portion.frames, none]
    rfl

end SelfCheck.Frame
