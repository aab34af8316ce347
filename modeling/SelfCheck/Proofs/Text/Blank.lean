import SelfCheck.Text.Blank
import Mathlib.Data.List.Basic
import Mathlib.Data.List.TakeWhile

/-! Trimmed texts, and the items between separators. -/

set_option autoImplicit false

namespace SelfCheck.Text

/-! Trimming. -/

theorem head?_dropBlank {cs : List Char} {c : Char} (first : (dropBlank cs).head? = some c) :
    isBlank c = false := by
  have found := List.head?_dropWhile_not isBlank cs
  rw [show cs.dropWhile isBlank = dropBlank cs from rfl, first] at found
  exact found

/-- Nothing is dropped in front of a character that is not blank. -/
theorem dropBlank_eq_self {cs : List Char} (inked : ∀ c, cs.head? = some c → isBlank c = false) :
    dropBlank cs = cs := by
  cases cs with
  | nil => rfl
  | cons c cs => exact List.dropWhile_cons_of_neg (by simp [inked c rfl])

theorem dropBlank_dropBlank (cs : List Char) : dropBlank (dropBlank cs) = dropBlank cs :=
  dropBlank_eq_self fun _ first => head?_dropBlank first

theorem dropBlank_eq_nil {cs : List Char} : dropBlank cs = [] ↔ ∀ c ∈ cs, isBlank c = true :=
  List.dropWhile_eq_nil_iff

/-- What is left after the end is trimmed begins as before. -/
theorem dropBlank_trimChars (cs : List Char) : dropBlank (trimChars cs) = trimChars cs := by
  have begins : trimChars cs <+: dropBlank cs := by
    rw [trimChars, ← List.reverse_suffix, List.reverse_reverse]
    exact List.dropWhile_suffix isBlank
  apply dropBlank_eq_self
  intro c first
  obtain ⟨rest, whole⟩ := begins
  have ahead : (dropBlank cs).head? = some c := by
    rw [← whole, List.head?_append, first, Option.some_or]
  exact head?_dropBlank ahead

theorem trimChars_trimChars (cs : List Char) : trimChars (trimChars cs) = trimChars cs := by
  calc
    trimChars (trimChars cs) = (dropBlank (trimChars cs).reverse).reverse := by
      rw [trimChars, dropBlank_trimChars]
    _ = (dropBlank (dropBlank (dropBlank cs).reverse)).reverse := by
      rw [trimChars, List.reverse_reverse]
    _ = trimChars cs := by rw [dropBlank_dropBlank, trimChars]

theorem trim_trim (s : String) : trim (trim s) = trim s := by
  rw [trim, trim, String.toList_ofList, trimChars_trimChars]

/-- Nothing is left of blanks, and of nothing else. -/
theorem trimChars_eq_nil {cs : List Char} : trimChars cs = [] ↔ ∀ c ∈ cs, isBlank c = true := by
  rw [← dropBlank_eq_nil, trimChars, List.reverse_eq_nil_iff, dropBlank_eq_nil]
  constructor
  · intro blank
    cases left : dropBlank cs with
    | nil => rfl
    | cons c rest =>
      have ahead : (dropBlank cs).head? = some c := by rw [left, List.head?_cons]
      have inked := head?_dropBlank ahead
      rw [blank c (by simp [left])] at inked
      cases inked
  · intro none
    simp [none]

/-- A text is left as it is when it neither begins nor ends with a blank. -/
theorem trimChars_eq_self {cs : List Char} :
    trimChars cs = cs ↔
      (∀ c ∈ cs.head?, isBlank c = false) ∧ ∀ c ∈ cs.getLast?, isBlank c = false := by
  constructor
  · intro same
    constructor
    · intro c first
      rw [← same, ← dropBlank_trimChars] at first
      exact head?_dropBlank first
    · intro c last
      rw [← same, trimChars, List.getLast?_reverse] at last
      exact head?_dropBlank last
  · rintro ⟨first, last⟩
    have back : dropBlank cs.reverse = cs.reverse :=
      dropBlank_eq_self fun c front => last c (by rwa [List.head?_reverse] at front)
    rw [trimChars, dropBlank_eq_self first, back, List.reverse_reverse]

/-- Nothing is trimmed where two texts meet. -/
theorem trimChars_append {front back : List Char} (frontWritten : front ≠ [])
    (frontSame : trimChars front = front) (backWritten : back ≠ [])
    (backSame : trimChars back = back) : trimChars (front ++ back) = front ++ back := by
  refine trimChars_eq_self.mpr ⟨fun c first => ?_, fun c last => ?_⟩
  · rw [List.head?_append_of_ne_nil _ frontWritten] at first
    exact (trimChars_eq_self.mp frontSame).1 c first
  · rw [List.getLast?_append_of_ne_nil _ backWritten] at last
    exact (trimChars_eq_self.mp backSame).2 c last

theorem isBlank_of_isDigit {c : Char} (digit : c.isDigit = true) : isBlank c = false := by
  have between := Char.isDigit_iff_toNat.mp digit
  simp only [isBlank]
  grind

theorem trim_eq_empty {s : String} : trim s = "" ↔ ∀ c ∈ s.toList, isBlank c = true := by
  rw [trim, String.ofList_eq_empty_iff, trimChars_eq_nil]

theorem mem_dropBlank {c : Char} {cs : List Char} (member : c ∈ cs) (inked : isBlank c = false) :
    c ∈ dropBlank cs := by
  rw [← List.takeWhile_append_dropWhile (p := isBlank) (l := cs), List.mem_append] at member
  rcases member with blank | left
  · rw [List.mem_takeWhile_imp blank] at inked
    cases inked
  · exact left

/-- What is not blank is not trimmed. -/
theorem mem_trim {c : Char} {s : String} (inked : isBlank c = false) :
    c ∈ (trim s).toList ↔ c ∈ s.toList := by
  rw [trim, String.toList_ofList, trimChars, List.mem_reverse]
  constructor
  · intro left
    have back := List.mem_reverse.mp ((List.dropWhile_sublist _).mem left)
    exact (List.dropWhile_sublist _).mem back
  · intro member
    exact mem_dropBlank (List.mem_reverse.mpr (mem_dropBlank member inked)) inked

/-! Pieces between separators, and items between commas. -/

/-- What holds of the characters of all pieces holds of all characters but the separators. -/
theorem forall_splitAt {separator : Char} {p : Char → Prop} {cs : List Char} :
    (∀ piece ∈ splitAt separator cs, ∀ c ∈ piece, p c) ↔ ∀ c ∈ cs, c = separator ∨ p c := by
  induction cs with
  | nil => simp [splitAt]
  | cons c cs ih =>
    rw [splitAt]
    by_cases here : c = separator
    · simp [here, ih]
    · rw [if_neg here]
      cases pieces : splitAt separator cs with
      | nil => simp_all
      | cons piece rest =>
        rw [pieces] at ih
        simp only [List.forall_mem_cons, here, false_or] at ih ⊢
        rw [← ih, and_assoc]

theorem splitAt_of_not_mem {separator : Char} {cs : List Char} (absent : separator ∉ cs) :
    splitAt separator cs = [cs] := by
  induction cs with
  | nil => rfl
  | cons c cs ih =>
    rw [List.mem_cons, not_or] at absent
    rw [splitAt, if_neg (Ne.symm absent.1), ih absent.2]

theorem mem_commaItems {item s : String} (member : item ∈ commaItems s) :
    item ≠ "" ∧ trim item = item := by
  obtain ⟨found, named⟩ := List.mem_filter.mp member
  obtain ⟨piece, -, rfl⟩ := List.mem_map.mp found
  refine ⟨of_decide_eq_true named, ?_⟩
  rw [trim, String.toList_ofList, trimChars_trimChars]

/-- A list names nothing when there are only commas and blanks in it. -/
theorem commaItems_eq_nil {s : String} :
    commaItems s = [] ↔ ∀ c ∈ s.toList, c = ',' ∨ isBlank c = true := by
  rw [← forall_splitAt, commaItems, List.filter_eq_nil_iff]
  simp only [List.forall_mem_map, decide_eq_true_eq, Decidable.not_not, String.ofList_eq_empty_iff,
    trimChars_eq_nil]

/-- Trimming takes nothing but blanks away. -/
theorem commaItems_trim_eq_nil {s : String} :
    commaItems (trim s) = [] ↔ ∀ c ∈ s.toList, c = ',' ∨ isBlank c = true := by
  rw [commaItems_eq_nil]
  refine forall_congr' fun c => ?_
  cases blank : isBlank c with
  | true => simp
  | false => rw [mem_trim blank]

end SelfCheck.Text
