import SelfCheck.Proofs.Text.Cut
import SelfCheck.Template.Reader

/-! A source by its tags.

A source is a row of tags, each with the text in front of it, and a rest in which no tag ends. To
read it is to take these tags into account one after the other, so the scan makes as many rounds as
there are tags.
-/

set_option autoImplicit false

namespace SelfCheck.Template

open SelfCheck.Text (Ahead)

variable {cs text tag inside source rest : List Char} {progress : Progress}

theorem openMark_ne_nil : openMark ≠ [] := List.cons_ne_nil _ _

theorem closeMark_ne_nil : closeMark ≠ [] := List.cons_ne_nil _ _

@[simp] theorem Progress.text_nil (progress : Progress) : progress.text [] = progress := rfl

@[simp] theorem Progress.text_opened (progress : Progress) (cs : List Char) :
    (progress.text cs).opened = progress.opened := by
  unfold text
  split <;> rfl

/-! One round of the scan. -/

theorem scan_of_absent (absent : ¬openMark <:+: cs) (progress : Progress) :
    scan cs progress = progress.finish cs := by
  rw [scan]
  split
  · rfl
  · next opening =>
    rw [(Text.cutAt?_eq_none openMark_ne_nil).mpr absent] at opening
    cases opening

theorem scan_nil (progress : Progress) : scan [] progress = progress.finish [] :=
  scan_of_absent (fun inside => openMark_ne_nil (List.infix_nil.mp inside)) progress

/-- The first tag begins behind the text that is ahead of it, and goes to the first closing mark. -/
theorem scan_of_ahead (ahead : Ahead openMark text) (inside : List Char) (progress : Progress) :
    scan (text ++ openMark ++ inside) progress =
      match Text.cutAt? closeMark inside with
      | none => .error .unterminatedTag
      | some (tag, rest) => (progress.text text).tag (Text.trimChars tag) >>= scan rest := by
  have found := ahead.cutAt? openMark_ne_nil inside
  rw [scan]
  split
  · next opening =>
    rw [found] at opening
    cases opening
  · next opening =>
    rw [found] at opening
    cases opening
    split
    · next closing => rw [closing]
    · next closing =>
      rw [closing]
      cases tagged : (progress.text text).tag (Text.trimChars _) <;> simp [tagged, bind, Except.bind]

/-- It does not matter whether the text in front of a tag has been taken into account before. -/
theorem scan_text (ahead : Ahead openMark text) (inside : List Char) (progress : Progress) :
    scan (text ++ openMark ++ inside) progress = scan (openMark ++ inside) (progress.text text) := by
  rw [scan_of_ahead ahead, ← List.nil_append openMark,
    scan_of_ahead (Text.ahead_nil openMark_ne_nil), Progress.text_nil]

theorem scan_tag (ahead : Ahead closeMark tag) (rest : List Char) (progress : Progress) :
    scan (openMark ++ (tag ++ closeMark ++ rest)) progress =
      progress.tag (Text.trimChars tag) >>= scan rest := by
  rw [← List.nil_append openMark, scan_of_ahead (Text.ahead_nil openMark_ne_nil),
    ahead.cutAt? closeMark_ne_nil, Progress.text_nil]

/-! All rounds. -/

/-- A tag, as it stands in its braces, with the text in front of it. -/
structure Piece where
  text : List Char
  tag : List Char

namespace Piece

def chars (piece : Piece) : List Char := piece.text ++ openMark ++ (piece.tag ++ closeMark)

/-- The tag begins at the first opening mark, and ends at the first closing mark behind it. -/
structure Sound (piece : Piece) : Prop where
  text : Ahead openMark piece.text
  tag : Ahead closeMark piece.tag

end Piece

/-- A source in its tags, and a rest: behind the first opening mark in it there is no closing
mark. -/
structure Cut (source : List Char) (pieces : List Piece) (rest : List Char) : Prop where
  whole : source = pieces.flatMap Piece.chars ++ rest
  sound : ∀ piece ∈ pieces, piece.Sound
  last : ∀ text inside, rest = text ++ openMark ++ inside → Ahead openMark text →
    ¬closeMark <:+: inside

/-- Take one tag and the text in front of it into account. -/
def Progress.piece (progress : Progress) (piece : Piece) : Except Fault Progress :=
  (progress.text piece.text).tag (Text.trimChars piece.tag)

/-- Take tags into account one after the other. -/
def Progress.pieces (progress : Progress) (pieces : List Piece) : Except Fault Progress :=
  pieces.foldlM Progress.piece progress

/-- What becomes of the tags that have been taken into account, once only the rest is left. -/
def Progress.close (progress : Progress) (rest : List Char) : Except Fault Template :=
  if openMark <:+: rest then .error .unterminatedTag else progress.finish rest

variable {pieces : List Piece}

theorem Progress.pieces_cons (progress : Progress) (piece : Piece) (pieces : List Piece) :
    progress.pieces (piece :: pieces) = progress.piece piece >>= (·.pieces pieces) :=
  List.foldlM_cons ..

theorem Progress.pieces_append (progress : Progress) (front back : List Piece) :
    progress.pieces (front ++ back) = progress.pieces front >>= (·.pieces back) :=
  List.foldlM_append ..

theorem scan_piece {piece : Piece} (sound : piece.Sound) (rest : List Char) (progress : Progress) :
    scan (piece.chars ++ rest) progress = progress.piece piece >>= scan rest := by
  rw [Piece.chars, List.append_assoc _ _ rest, scan_text sound.text, scan_tag sound.tag]
  rfl

theorem scan_pieces (sound : ∀ piece ∈ pieces, piece.Sound) (rest : List Char)
    (progress : Progress) :
    scan (pieces.flatMap Piece.chars ++ rest) progress =
      progress.pieces pieces >>= scan rest := by
  induction pieces generalizing progress with
  | nil => rfl
  | cons piece pieces ih =>
    obtain ⟨first, sound⟩ := List.forall_mem_cons.mp sound
    rw [List.flatMap_cons, List.append_assoc, scan_piece first, Progress.pieces_cons, bind_assoc]
    congr
    funext progress
    exact ih sound progress

theorem scan_rest
    (last : ∀ text inside, rest = text ++ openMark ++ inside → Ahead openMark text →
      ¬closeMark <:+: inside) (progress : Progress) : scan rest progress = progress.close rest := by
  unfold Progress.close
  cases opening : Text.cutAt? openMark rest with
  | none =>
    have absent := (Text.cutAt?_eq_none openMark_ne_nil).mp opening
    rw [scan_of_absent absent, if_neg absent]
  | some parts =>
    obtain ⟨rfl, ahead⟩ := (Text.cutAt?_eq_some openMark_ne_nil).mp opening
    have unclosed := (Text.cutAt?_eq_none closeMark_ne_nil).mpr (last _ _ rfl ahead)
    rw [scan_of_ahead ahead, unclosed, if_pos (List.infix_append _ _ _)]

/-- To read a source is to take its tags into account one after the other, and then the rest. -/
theorem Cut.scan_eq (cut : Cut source pieces rest) (progress : Progress) :
    scan source progress = progress.pieces pieces >>= (·.close rest) := by
  rw [cut.whole, scan_pieces cut.sound]
  congr
  funext progress
  exact scan_rest cut.last progress

theorem Cut.length_le (cut : Cut source pieces rest) : 4 * pieces.length ≤ source.length := by
  have marks (pieces : List Piece) : 4 * pieces.length ≤ (pieces.flatMap Piece.chars).length := by
    induction pieces with
    | nil => exact Nat.zero_le _
    | cons piece pieces ih =>
      simp only [List.flatMap_cons, List.length_append, Piece.chars, List.length_cons, openMark,
        closeMark, List.length_nil]
      omega
  rw [cut.whole, List.length_append]
  exact Nat.le_add_right_of_le (marks pieces)

theorem exists_cut (source : List Char) : ∃ pieces rest, Cut source pieces rest := by
  cases opening : Text.cutAt? openMark source with
  | none =>
    have absent := (Text.cutAt?_eq_none openMark_ne_nil).mp opening
    refine ⟨[], source, rfl, by simp, ?_⟩
    rintro text inside rfl
    exact (absent (List.infix_append _ _ _)).elim
  | some parts =>
    obtain ⟨text, inside⟩ := parts
    cases closing : Text.cutAt? closeMark inside with
    | none =>
      refine ⟨[], source, rfl, by simp, ?_⟩
      rintro text' inside' rfl ahead'
      rw [ahead'.cutAt? openMark_ne_nil] at opening
      cases opening
      exact (Text.cutAt?_eq_none closeMark_ne_nil).mp closing
    | some parts =>
      obtain ⟨tag, behind⟩ := parts
      -- The first tag is a piece, and what stands behind it is cut in the same way.
      have shorter : behind.length < source.length :=
        (length_after_lt closeMark_ne_nil closing).trans (length_after_lt openMark_ne_nil opening)
      obtain ⟨pieces, rest, whole, sound, last⟩ := exists_cut behind
      obtain ⟨rfl, aheadText⟩ := (Text.cutAt?_eq_some openMark_ne_nil).mp opening
      obtain ⟨rfl, aheadTag⟩ := (Text.cutAt?_eq_some closeMark_ne_nil).mp closing
      refine ⟨⟨text, tag⟩ :: pieces, rest, ?_, List.forall_mem_cons.mpr ⟨⟨aheadText, aheadTag⟩, sound⟩,
        last⟩
      rw [whole, List.flatMap_cons, Piece.chars]
      simp only [List.append_assoc]
termination_by source.length

end SelfCheck.Template
