import SelfCheck.Text.Blank
import Mathlib.Data.List.Infix
import Mathlib.Data.List.TakeWhile

/-! Texts cut at a mark: at the first place where it stands, or at the last one. -/

set_option autoImplicit false

namespace SelfCheck.Text

variable {mark cs before after : List Char} {c : Char}

/-! The first place. -/

/-- A mark behind such a text is the first one: none stands within the text or across its end. -/
def Ahead (mark cs : List Char) : Prop := ¬mark <:+: cs ++ mark.dropLast

/-- Nothing is ahead of a mark that stands in front. -/
theorem ahead_nil (written : mark ≠ []) : Ahead mark [] := by
  intro inside
  have shorter := inside.length_le
  have some := List.length_pos_iff.mpr written
  rw [List.nil_append, List.length_dropLast] at shorter
  omega

theorem append_dropLast_prefix (before mark after : List Char) :
    before ++ mark.dropLast <+: before ++ mark ++ after := by
  rw [List.append_assoc]
  exact (List.prefix_append_right_inj before).mpr
    ((List.dropLast_prefix mark).trans (List.prefix_append _ _))

theorem cutAt?_eq_some (written : mark ≠ []) :
    cutAt? mark cs = some (before, after) ↔ cs = before ++ mark ++ after ∧ Ahead mark before := by
  induction cs generalizing before with
  | nil => simp [cutAt?, written]
  | cons c cs ih =>
    by_cases here : mark <+: c :: cs
    · rw [cutAt?, if_pos (List.isPrefixOf_iff_prefix.mpr here)]
      constructor
      · intro cut
        cases cut
        obtain ⟨after, whole⟩ := here
        exact ⟨by simp [← whole], ahead_nil written⟩
      · rintro ⟨whole, first⟩
        cases before with
        | nil => simp [whole]
        | cons b before =>
          -- The mark in front lies within the part that holds none.
          have front : b :: before ++ mark.dropLast <+: c :: cs :=
            whole ▸ append_dropLast_prefix (b :: before) mark after
          have short : mark.length ≤ (b :: before ++ mark.dropLast).length := by
            rw [List.length_append, List.length_cons, List.length_dropLast]
            omega
          exact (first (List.prefix_of_prefix_length_le here front short).isInfix).elim
    · have away : mark.isPrefixOf (c :: cs) = false := by
        rw [← Bool.not_eq_true, List.isPrefixOf_iff_prefix]
        exact here
      rw [cutAt?, away, if_neg Bool.false_ne_true, Option.map_eq_some_iff]
      constructor
      · rintro ⟨⟨front, back⟩, found, same⟩
        cases same
        obtain ⟨whole, first⟩ := ih.mp found
        refine ⟨congrArg (c :: ·) whole, ?_⟩
        rw [Ahead, List.cons_append, List.infix_cons_iff, not_or]
        refine ⟨fun starts => here (starts.trans ?_), first⟩
        rw [whole]
        exact append_dropLast_prefix (c :: front) mark after
      · rintro ⟨whole, first⟩
        cases before with
        | nil => exact (here ⟨after, by simpa using whole.symm⟩).elim
        | cons b before =>
          obtain ⟨rfl, behind⟩ := List.cons.inj whole
          exact ⟨_, ih.mpr ⟨behind, fun inside => first (List.infix_cons inside)⟩, rfl⟩

theorem Ahead.cutAt? (ahead : Ahead mark before) (written : mark ≠ []) (after : List Char) :
    cutAt? mark (before ++ mark ++ after) = some (before, after) :=
  (cutAt?_eq_some written).mpr ⟨rfl, ahead⟩

theorem cutAt?_eq_none (written : mark ≠ []) : cutAt? mark cs = none ↔ ¬mark <:+: cs := by
  constructor
  · intro uncut inside
    induction cs with
    | nil => exact written (List.infix_nil.mp inside)
    | cons c cs ih =>
      rw [cutAt?] at uncut
      split at uncut
      · cases uncut
      · next away =>
        rw [List.isPrefixOf_iff_prefix] at away
        rw [Option.map_eq_none_iff] at uncut
        exact ih uncut ((List.infix_cons_iff.mp inside).resolve_left away)
  · intro absent
    cases cut : cutAt? mark cs with
    | none => rfl
    | some parts =>
      have whole := cutAt?_append cut
      exact (absent ⟨parts.1, parts.2, whole.symm⟩).elim

theorem cutAt?_char_eq_some :
    cutAt? [c] cs = some (before, after) ↔ cs = before ++ c :: after ∧ c ∉ before := by
  rw [cutAt?_eq_some (List.cons_ne_nil c [])]
  simp [Ahead, List.singleton_infix_iff]

theorem cutAt?_char_eq_none : cutAt? [c] cs = none ↔ c ∉ cs := by
  rw [cutAt?_eq_none (List.cons_ne_nil c []), List.singleton_infix_iff]

/-- What is ahead of a doubled sign does not hold it doubled, and does not end with it. -/
theorem ahead_doubled :
    Ahead [c, c] cs ↔ ¬[c, c] <:+: cs ∧ cs.getLast? ≠ some c := by
  have ends : [c, c] <:+ cs ++ [c] ↔ cs.getLast? = some c := by
    rw [← List.singleton_append, List.suffix_append_inj_of_length_eq rfl, and_iff_left rfl]
    exact List.singleton_suffix_iff_getLast?_eq_some
  unfold Ahead
  rw [List.dropLast_cons_cons, List.dropLast_singleton, List.infix_concat_iff, not_or, and_comm,
    ends]

theorem ahead_of_not_mem (absent : c ∉ cs) : Ahead [c, c] cs :=
  ahead_doubled.mpr ⟨fun inside => absent (inside.subset List.mem_cons_self),
    fun last => absent (List.mem_of_getLast? last)⟩

/-! The last place. -/

theorem exists_last (member : c ∈ cs) :
    ∃ before after, cs = before ++ c :: after ∧ c ∉ after := by
  -- The first place in the reversed text is the last one of the text.
  obtain ⟨behind, front, whole, absent⟩ := List.eq_append_cons_of_mem (List.mem_reverse.mpr member)
  refine ⟨front.reverse, behind.reverse, ?_, by simpa using absent⟩
  rw [← List.reverse_reverse cs, whole]
  simp

theorem bne_of_not_mem (absent : c ∉ cs) : ∀ d ∈ cs, (d != c) = true :=
  fun _ member => bne_iff_ne.mpr (ne_of_mem_of_not_mem member absent)

theorem cutAtLast?_append (absent : c ∉ after) (before : List Char) :
    cutAtLast? c (before ++ c :: after) = some (before, after) := by
  have behind : (before ++ c :: after).reverse.takeWhile (· != c) = after.reverse := by
    rw [List.reverse_append, List.reverse_cons, List.append_assoc,
      List.takeWhile_append_of_pos (bne_of_not_mem (by simpa using absent)), List.singleton_append,
      List.takeWhile_cons_of_neg (by simp), List.append_nil]
  have length : (before ++ c :: after).length = before.length + after.reverse.length + 1 := by
    simp only [List.length_append, List.length_cons, List.length_reverse]
    omega
  have front : before.length + after.reverse.length + 1 - after.reverse.length - 1 =
      before.length := by omega
  unfold cutAtLast?
  dsimp only
  rw [behind, length, if_pos (by omega), front, List.take_left, List.reverse_reverse]

theorem cutAtLast?_eq_none : cutAtLast? c cs = none ↔ c ∉ cs := by
  constructor
  · intro uncut member
    obtain ⟨before, after, rfl, absent⟩ := exists_last member
    rw [cutAtLast?_append absent] at uncut
    cases uncut
  · intro absent
    unfold cutAtLast?
    rw [List.takeWhile_eq_self_iff.mpr (bne_of_not_mem (by simpa using absent))]
    simp

end SelfCheck.Text
