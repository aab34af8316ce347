import SelfCheck.Proofs.Template.Tags
import SelfCheck.Proofs.Text.Blank
import SelfCheck.Proofs.Text.Numeral
import SelfCheck.Proofs.Traversal

/-! What can be wrong with a source.

The tags of a source are balanced when every section is closed under its name and nothing else is
closed. Reading fails exactly when the tags are not balanced, a tag does not end, or a place has no
path or no proper width; and the fault that it reports is one that the source has.
-/

set_option autoImplicit false

namespace SelfCheck.Template

/-! What a tag is for. -/

inductive Tag where
  | opens (path : String) (each : Bool)
  | closes (name : String)
  | place (inside : List Char)

def Tag.ofChars : List Char → Tag
  | '?' :: path => .opens (trimmed path) false
  | '*' :: path => .opens (trimmed path) true
  | '/' :: name => .closes (String.ofList name)
  | inside => .place inside

def Piece.meaning (piece : Piece) : Tag := .ofChars (Text.trimChars piece.tag)

/-- What a place says behind its hash sign. -/
def shown : List Char → List Char
  | '#' :: rest => Text.trimChars rest
  | inside => inside

/-- The path of a place, and its width: what stands in front of the last colon and behind it. -/
inductive Shows : List Char → List Char → Option (List Char) → Prop
  | bare {path : List Char} : ':' ∉ path → Shows path path none
  | wide {path width : List Char} : ':' ∉ width → Shows (path ++ ':' :: width) path (some width)

/-- A number that a machine word can hold, with blanks around it. -/
def IsWidth (cs : List Char) : Prop :=
  ∃ digits value, (Text.trimChars cs = digits ∨ Text.trimChars cs = '+' :: digits) ∧
    Text.Numeral digits value ∧ value ≤ Text.maxWord

/-- What is wrong with a place for a value that shows some text. -/
inductive PlaceFlaw (cs : List Char) : Fault → Prop
  | badWidth {path width : List Char} : Shows cs path (some width) → ¬IsWidth width →
      PlaceFlaw cs (.badWidth (String.ofList cs))
  | emptyPlaceholder {path : List Char} {width : Option (List Char)} : Shows cs path width →
      (∀ c ∈ path, Text.isBlank c = true) → PlaceFlaw cs .emptyPlaceholder

/-- Tags that close each section that they open under its name, and close nothing else. -/
inductive Balanced : List Piece → Prop
  | nil : Balanced []
  | place {piece : Piece} {pieces : List Piece} {inside : List Char} :
      piece.meaning = .place inside → Balanced pieces → Balanced (piece :: pieces)
  | block {opening closing : Piece} {body pieces : List Piece} {path name : String} {each : Bool} :
      opening.meaning = .opens path each → Balanced body →
      closing.meaning = .closes name → Text.trim name = path → Balanced pieces →
      Balanced (opening :: (body ++ closing :: pieces))

/-- What is wrong with a source. -/
inductive Flaw (source : List Char) : Fault → Prop
  /-- An opening mark has no closing mark behind it. -/
  | unterminatedTag {pieces : List Piece} {rest : List Char} :
      Cut source pieces rest → openMark <:+: rest → Flaw source .unterminatedTag
  /-- All sections in front of a closing tag are closed. -/
  | unopened {before after : List Piece} {closing : Piece} {rest : List Char} {name : String} :
      Cut source (before ++ closing :: after) rest → Balanced before →
      closing.meaning = .closes name → Flaw source (.unopened name)
  /-- A section is closed under another name. -/
  | mismatched {before body after : List Piece} {opening closing : Piece} {rest : List Char}
      {path name : String} {each : Bool} :
      Cut source (before ++ opening :: (body ++ closing :: after)) rest →
      opening.meaning = .opens path each → Balanced body → closing.meaning = .closes name →
      Text.trim name ≠ path → Flaw source (.mismatched path name)
  /-- All sections behind an opening tag are closed, and it is not. -/
  | unclosed {before after : List Piece} {opening : Piece} {rest : List Char} {path : String}
      {each : Bool} :
      Cut source (before ++ opening :: after) rest → opening.meaning = .opens path each →
      Balanced after → Flaw source (.unclosed path)
  | place {pieces : List Piece} {piece : Piece} {rest inside : List Char} {fault : Fault} :
      Cut source pieces rest → piece ∈ pieces → piece.meaning = .place inside →
      PlaceFlaw (shown inside) fault → Flaw source fault

variable {source rest inside : List Char} {pieces before after : List Piece} {piece : Piece}
  {progress next : Progress} {fault : Fault} {template : Template}

/-! A place. -/

theorem exists_shows (cs : List Char) : ∃ path width, Shows cs path width := by
  by_cases member : ':' ∈ cs
  · obtain ⟨path, width, rfl, absent⟩ := Text.exists_last member
    exact ⟨path, some width, .wide absent⟩
  · exact ⟨cs, none, .bare member⟩

theorem readBounded?_eq_none {width : List Char} :
    Text.readBounded? Text.maxWord (Text.trimChars width) = none ↔ ¬IsWidth width := by
  rw [Option.eq_none_iff_forall_ne_some]
  constructor
  · rintro unread ⟨digits, value, written, numeral, small⟩
    exact unread value (Text.readBounded?_eq_some.mpr ⟨digits, written, numeral, small⟩)
  · intro none value read
    obtain ⟨digits, written, numeral, small⟩ := Text.readBounded?_eq_some.mp read
    exact none ⟨digits, value, written, numeral, small⟩

/-- The place that shows some text. -/
def showing (digit : Bool) (cs : List Char) : Except Fault Node :=
  match Text.cutAtLast? ':' cs with
  | some (path, width) =>
    match Text.readBounded? Text.maxWord (Text.trimChars width) with
    | none => .error (.badWidth (String.ofList cs))
    | some width =>
      if (Text.trimChars path).isEmpty then .error .emptyPlaceholder
      else .ok (.value (trimmed path) (some width) digit)
  | none =>
    if cs.isEmpty then .error .emptyPlaceholder else .ok (.value (String.ofList cs) none digit)

theorem placeholder_eq (inside : List Char) :
    placeholder inside = showing (inside.head? == some '#') (shown inside) := by
  cases inside with
  | nil => rfl
  | cons c rest =>
    by_cases hash : c = '#'
    · subst hash
      rfl
    · have same : shown (c :: rest) = c :: rest := by simp [shown, hash]
      have bare : ((c :: rest).head? == some '#') = false := by simp [hash]
      rw [same, bare, placeholder]
      · rfl
      · rintro other ⟨⟩
        exact hash rfl

theorem showing_bare {cs : List Char} (absent : ':' ∉ cs) (digit : Bool) :
    showing digit cs =
      if cs.isEmpty then .error .emptyPlaceholder
      else .ok (.value (String.ofList cs) none digit) := by
  rw [showing, Text.cutAtLast?_eq_none.mpr absent]

theorem showing_wide {path width : List Char} (absent : ':' ∉ width) (digit : Bool) :
    showing digit (path ++ ':' :: width) =
      match Text.readBounded? Text.maxWord (Text.trimChars width) with
      | none => .error (.badWidth (String.ofList (path ++ ':' :: width)))
      | some width =>
        if (Text.trimChars path).isEmpty then .error .emptyPlaceholder
        else .ok (.value (trimmed path) (some width) digit) := by
  rw [showing, Text.cutAtLast?_append absent]

variable {cs : List Char} {digit : Bool}

/-- A place is refused for a flaw that it has. -/
theorem placeFlaw_of_error (refused : showing digit cs = .error fault) : PlaceFlaw cs fault := by
  obtain ⟨path, width, shows⟩ := exists_shows cs
  cases shows with
  | bare absent =>
    rw [showing_bare absent] at refused
    split at refused
    · next empty =>
      cases refused
      rw [List.isEmpty_iff] at empty
      exact .emptyPlaceholder (.bare absent) (by simp [empty])
    · cases refused
  | wide absent =>
    rw [showing_wide absent] at refused
    split at refused
    · next unread =>
      cases refused
      exact .badWidth (.wide absent) (readBounded?_eq_none.mp unread)
    · split at refused
      · next empty =>
        cases refused
        exact .emptyPlaceholder (.wide absent)
          (Text.trimChars_eq_nil.mp (List.isEmpty_iff.mp empty))
      · cases refused

/-- A place with a flaw is refused. -/
theorem PlaceFlaw.refuses (flaw : PlaceFlaw cs fault) (trim : Text.trimChars cs = cs)
    (digit : Bool) : ∃ first, showing digit cs = .error first := by
  cases flaw with
  | badWidth shows none =>
    cases shows with
    | wide absent =>
      rw [showing_wide absent, readBounded?_eq_none.mpr none]
      exact ⟨_, rfl⟩
  | emptyPlaceholder shows blank =>
    have empty := Text.trimChars_eq_nil.mpr blank
    cases shows with
    | bare absent =>
      rw [trim] at empty
      exact ⟨_, by rw [showing_bare absent, empty]; rfl⟩
    | wide absent =>
      rw [showing_wide absent]
      split
      · exact ⟨_, rfl⟩
      · rw [empty]
        exact ⟨_, rfl⟩

/-! A tag. -/

/-- Take into account what a tag is for. -/
def Progress.take (progress : Progress) : Tag → Except Fault Progress
  | .opens path each => .ok ⟨⟨path, each, progress.nodes⟩ :: progress.opened, []⟩
  | .closes name =>
    match progress.opened with
    | [] => .error (.unopened name)
    | inner :: outer =>
      if inner.path = Text.trim name then
        .ok ⟨outer, .block inner.path inner.each progress.nodes.reverse :: inner.before⟩
      else .error (.mismatched inner.path name)
  | .place inside =>
    (placeholder inside).map fun node => ⟨progress.opened, node :: progress.nodes⟩

theorem Progress.tag_eq (progress : Progress) (tag : List Char) :
    progress.tag tag = progress.take (.ofChars tag) := by
  unfold Progress.tag
  split
  · rfl
  · rfl
  · next name =>
    have same : Text.trim (String.ofList name) = trimmed name := by
      rw [Text.trim, String.toList_ofList, trimmed]
    cases opened : progress.opened with
    | nil => simp only [Tag.ofChars, take, opened]
    | cons inner outer => simp only [Tag.ofChars, take, opened, same]
  · next notOnce notEach notClosing =>
    rw [Tag.ofChars]
    · rfl
    · exact notOnce
    · exact notEach
    · exact notClosing

/-- What stands in a place has no blanks at its ends, with or without a hash sign. -/
theorem trimChars_shown (place : piece.meaning = .place inside) :
    Text.trimChars (shown inside) = shown inside := by
  have same : inside = Text.trimChars piece.tag := by
    unfold Piece.meaning Tag.ofChars at place
    split at place <;> cases place
    rfl
  unfold shown
  split
  · exact Text.trimChars_trimChars _
  · rw [same, Text.trimChars_trimChars]

theorem Progress.piece_eq (progress : Progress) (piece : Piece) :
    progress.piece piece = (progress.text piece.text).take piece.meaning :=
  tag_eq ..

variable {path name : String} {each : Bool}

/-! What a tag that is accepted does to the open sections. -/

theorem Progress.opened_of_opens (meaning : piece.meaning = .opens path each)
    (taken : progress.piece piece = .ok next) :
    ∃ nodes, next.opened = ⟨path, each, nodes⟩ :: progress.opened := by
  rw [Progress.piece_eq, meaning, take, text_opened] at taken
  cases taken
  exact ⟨_, rfl⟩

theorem Progress.opened_of_closes (meaning : piece.meaning = .closes name)
    (taken : progress.piece piece = .ok next) :
    ∃ inner, progress.opened = inner :: next.opened ∧ inner.path = Text.trim name := by
  rw [Progress.piece_eq, meaning, take, text_opened] at taken
  split at taken
  · cases taken
  · next inner outer opened =>
    split at taken
    · next same =>
      cases taken
      exact ⟨inner, opened, same⟩
    · cases taken

theorem Progress.opened_of_place (meaning : piece.meaning = .place inside)
    (taken : progress.piece piece = .ok next) :
    next.opened = progress.opened ∧ ∀ fault, ¬PlaceFlaw (shown inside) fault := by
  rw [Progress.piece_eq, meaning, take, text_opened] at taken
  cases placed : placeholder inside with
  | error fault =>
    rw [placed] at taken
    cases taken
  | ok node =>
    rw [placed] at taken
    cases taken
    refine ⟨rfl, fun fault flaw => ?_⟩
    obtain ⟨first, refused⟩ := flaw.refuses (trimChars_shown meaning) (inside.head? == some '#')
    rw [placeholder_eq, refused] at placed
    cases placed

/-- Why a tag is refused. -/
theorem Progress.refused_piece (refused : progress.piece piece = .error fault) :
    (∃ name, piece.meaning = .closes name ∧ progress.opened = [] ∧ fault = .unopened name) ∨
    (∃ name inner outer, piece.meaning = .closes name ∧ progress.opened = inner :: outer ∧
      inner.path ≠ Text.trim name ∧ fault = .mismatched inner.path name) ∨
    ∃ inside, piece.meaning = .place inside ∧ PlaceFlaw (shown inside) fault := by
  rw [Progress.piece_eq] at refused
  cases meaning : piece.meaning with
  | opens path each =>
    rw [meaning, take] at refused
    cases refused
  | closes name =>
    rw [meaning, take, text_opened] at refused
    split at refused
    · next opened =>
      cases refused
      exact .inl ⟨name, rfl, opened, rfl⟩
    · next inner outer opened =>
      split at refused
      · cases refused
      · next differs =>
        cases refused
        exact .inr (.inl ⟨name, inner, outer, rfl, opened, differs, rfl⟩)
  | place inside =>
    rw [meaning, take, placeholder_eq] at refused
    cases placed : showing (inside.head? == some '#') (shown inside) with
    | error first =>
      rw [placed] at refused
      cases refused
      exact .inr (.inr ⟨inside, rfl, placeFlaw_of_error placed⟩)
    | ok node =>
      rw [placed] at refused
      cases refused

/-! Tags that are all accepted. -/

theorem Progress.pieces_cons_eq_ok : progress.pieces (piece :: pieces) = .ok next ↔
    ∃ middle, progress.piece piece = .ok middle ∧ middle.pieces pieces = .ok next := by
  rw [pieces_cons, bind_eq_ok]

theorem Progress.pieces_append_eq_ok : progress.pieces (before ++ after) = .ok next ↔
    ∃ middle, progress.pieces before = .ok middle ∧ middle.pieces after = .ok next := by
  rw [pieces_append, bind_eq_ok]

/-- A tag, others behind it and one more, on the way to the end. -/
theorem Progress.pieces_block {opening closing : Piece} {body : List Piece}
    (taken : progress.pieces (opening :: (body ++ closing :: pieces)) = .ok next) :
    ∃ within done behind, progress.piece opening = .ok within ∧ within.pieces body = .ok done ∧
      done.piece closing = .ok behind ∧ behind.pieces pieces = .ok next := by
  obtain ⟨within, first, taken⟩ := pieces_cons_eq_ok.mp taken
  obtain ⟨done, inside, taken⟩ := pieces_append_eq_ok.mp taken
  obtain ⟨behind, last, taken⟩ := pieces_cons_eq_ok.mp taken
  exact ⟨within, done, behind, first, inside, last, taken⟩

/-! Balanced tags. -/

theorem Balanced.append (front : Balanced before) (back : Balanced after) :
    Balanced (before ++ after) := by
  induction front with
  | nil => exact back
  | place meaning _ ih => exact .place meaning ih
  | block opens body closes same _ _ ih =>
    rw [List.cons_append, List.append_assoc]
    exact .block opens body closes same ih

/-- Balanced tags leave the same sections open. -/
theorem Balanced.opened (balanced : Balanced pieces)
    (taken : progress.pieces pieces = .ok next) : next.opened = progress.opened := by
  induction balanced generalizing progress next with
  | nil =>
    cases taken
    rfl
  | place meaning _ ih =>
    obtain ⟨middle, first, taken⟩ := Progress.pieces_cons_eq_ok.mp taken
    rw [ih taken, (Progress.opened_of_place meaning first).1]
  | block opens _ closes _ _ ihBody ih =>
    obtain ⟨within, done, behind, first, body, last, taken⟩ := Progress.pieces_block taken
    -- The section that is closed is the one that has been opened here.
    obtain ⟨nodes, opened⟩ := Progress.opened_of_opens opens first
    obtain ⟨inner, closed, -⟩ := Progress.opened_of_closes closes last
    rw [ihBody body, opened] at closed
    rw [ih taken, (List.cons.inj closed).2]

/-! Sections that are left open. -/

/-- Tags that leave some sections open, the innermost in front, and close all others. -/
inductive Leaves : List Piece → List Open → Prop
  | none {pieces : List Piece} : Balanced pieces → Leaves pieces []
  | within {before body : List Piece} {opening : Piece} {inner : Open} {outer : List Open} :
      Leaves before outer → opening.meaning = .opens inner.path inner.each → Balanced body →
      Leaves (before ++ opening :: body) (inner :: outer)

variable {opened : List Open}

theorem Leaves.append (leaves : Leaves before opened) (balanced : Balanced after) :
    Leaves (before ++ after) opened := by
  cases leaves with
  | none front => exact .none (front.append balanced)
  | within outside opens body =>
    rw [List.append_assoc, List.cons_append]
    exact .within outside opens (body.append balanced)

theorem Leaves.step (leaves : Leaves before progress.opened)
    (taken : progress.piece piece = .ok next) : Leaves (before ++ [piece]) next.opened := by
  cases meaning : piece.meaning with
  | opens path each =>
    obtain ⟨nodes, opened⟩ := Progress.opened_of_opens meaning taken
    rw [opened]
    exact .within leaves meaning .nil
  | closes name =>
    obtain ⟨inner, opened, same⟩ := Progress.opened_of_closes meaning taken
    rw [opened] at leaves
    cases leaves with
    | within outside opens body =>
      have closed := outside.append (.block opens body meaning same.symm .nil)
      rwa [List.append_assoc, List.cons_append]
  | place inside =>
    rw [(Progress.opened_of_place meaning taken).1]
    exact leaves.append (.place meaning .nil)

/-- A tag is refused for a flaw of the source. -/
theorem Leaves.flaw_of_piece (leaves : Leaves before progress.opened)
    (cut : Cut source (before ++ piece :: after) rest)
    (refused : progress.piece piece = .error fault) : Flaw source fault := by
  rcases Progress.refused_piece refused with ⟨name, closes, none, rfl⟩ |
    ⟨name, inner, outer, closes, opened, differs, rfl⟩ | ⟨inside, place, flaw⟩
  · rw [none] at leaves
    cases leaves with
    | none front => exact .unopened cut front closes
  · rw [opened] at leaves
    cases leaves with
    | within outside opens body =>
      rw [List.append_assoc, List.cons_append] at cut
      exact .mismatched cut opens body closes differs.symm
  · exact .place cut (List.mem_append_right _ List.mem_cons_self) place flaw

/-- The rest is refused for a flaw of the source. -/
theorem Leaves.flaw_of_rest (leaves : Leaves before progress.opened)
    (cut : Cut source before rest) (refused : progress.close rest = .error fault) :
    Flaw source fault := by
  unfold Progress.close at refused
  split at refused
  · next opening =>
    cases refused
    exact .unterminatedTag cut opening
  · unfold Progress.finish at refused
    split at refused
    · next inner outer opened =>
      cases refused
      rw [opened] at leaves
      cases leaves with
      | within outside opens body => exact .unclosed cut opens body
    · cases refused

theorem Leaves.flaw_of_error (leaves : Leaves before progress.opened)
    (cut : Cut source (before ++ after) rest)
    (refused : progress.pieces after >>= (·.close rest) = .error fault) : Flaw source fault := by
  induction after generalizing before progress with
  | nil =>
    rw [List.append_nil] at cut
    exact leaves.flaw_of_rest cut refused
  | cons piece after ih =>
    rw [Progress.pieces_cons, bind_assoc, bind_eq_error] at refused
    rcases refused with first | ⟨next, taken, later⟩
    · exact leaves.flaw_of_piece cut first
    · refine ih (leaves.step taken) ?_ later
      rwa [List.append_assoc, List.singleton_append]

/-- Whatever reading reports is wrong with the source. -/
theorem flaw_of_error {source : String} (refused : read source = .error fault) :
    Flaw source.toList fault := by
  obtain ⟨pieces, rest, cut⟩ := exists_cut source.toList
  rw [read, cut.scan_eq] at refused
  exact Leaves.flaw_of_error (.none .nil) (by simpa using cut) refused

/-! Sources that are read. -/

theorem Progress.of_close (closed : progress.close rest = .ok template) :
    progress.opened = [] ∧ ¬openMark <:+: rest := by
  unfold Progress.close at closed
  split at closed
  · cases closed
  · next absent =>
    unfold Progress.finish at closed
    split at closed
    · cases closed
    · next none => exact ⟨none, absent⟩

/-- A source that is read gets past each of its tags, and past the rest. -/
theorem Cut.taken (cut : Cut source (before ++ after) rest)
    (read : scan source progress = .ok template) :
    ∃ middle last, progress.pieces before = .ok middle ∧ middle.pieces after = .ok last ∧
      last.close rest = .ok template := by
  rw [cut.scan_eq, bind_eq_ok] at read
  obtain ⟨last, all, closed⟩ := read
  obtain ⟨middle, front, back⟩ := Progress.pieces_append_eq_ok.mp all
  exact ⟨middle, last, front, back, closed⟩

/-- A source with a flaw is not read. -/
theorem Flaw.not_read (flaw : Flaw source fault) : scan source ⟨[], []⟩ ≠ .ok template := by
  intro read
  cases flaw with
  | unterminatedTag cut opening =>
    rw [cut.scan_eq, bind_eq_ok] at read
    obtain ⟨last, -, closed⟩ := read
    exact (Progress.of_close closed).2 opening
  | unopened cut front closes =>
    obtain ⟨middle, last, taken, behind, -⟩ := cut.taken read
    obtain ⟨next, closing, -⟩ := Progress.pieces_cons_eq_ok.mp behind
    obtain ⟨inner, opened, -⟩ := Progress.opened_of_closes closes closing
    rw [front.opened taken] at opened
    cases opened
  | mismatched cut opens body closes differs =>
    obtain ⟨middle, last, -, behind, -⟩ := cut.taken read
    obtain ⟨within, done, next, opening, inside, closing, -⟩ := Progress.pieces_block behind
    -- The innermost section at the closing tag is the one that has been opened here.
    obtain ⟨nodes, opened⟩ := Progress.opened_of_opens opens opening
    obtain ⟨inner, closed, same⟩ := Progress.opened_of_closes closes closing
    rw [body.opened inside, opened] at closed
    obtain ⟨rfl, -⟩ := List.cons.inj closed
    exact differs same.symm
  | unclosed cut opens body =>
    obtain ⟨middle, last, -, behind, closed⟩ := cut.taken read
    obtain ⟨within, opening, behind⟩ := Progress.pieces_cons_eq_ok.mp behind
    obtain ⟨nodes, opened⟩ := Progress.opened_of_opens opens opening
    have left := (Progress.of_close closed).1
    rw [body.opened behind, opened] at left
    cases left
  | place cut member place flaw =>
    obtain ⟨before, after, rfl⟩ := List.append_of_mem member
    obtain ⟨middle, last, -, behind, -⟩ := cut.taken read
    obtain ⟨next, taken, -⟩ := Progress.pieces_cons_eq_ok.mp behind
    exact (Progress.opened_of_place place taken).2 _ flaw

/-- Reading fails exactly when something is wrong with the source. -/
theorem read_fails_iff {source : String} :
    (∃ first, read source = .error first) ↔ ∃ fault, Flaw source.toList fault := by
  constructor
  · rintro ⟨first, refused⟩
    exact ⟨first, flaw_of_error refused⟩
  · rintro ⟨fault, flaw⟩
    cases refused : read source with
    | error first => exact ⟨first, rfl⟩
    | ok template => exact (flaw.not_read refused).elim

theorem Leaves.of_pieces (leaves : Leaves before progress.opened)
    (taken : progress.pieces after = .ok next) : Leaves (before ++ after) next.opened := by
  induction after generalizing before progress with
  | nil =>
    cases taken
    rwa [List.append_nil]
  | cons piece after ih =>
    obtain ⟨middle, first, taken⟩ := Progress.pieces_cons_eq_ok.mp taken
    have all := ih (leaves.step first) taken
    rwa [List.append_assoc, List.singleton_append] at all

/-- The tags of a source that is read are balanced. -/
theorem balanced_of_read {source : String} (cut : Cut source.toList pieces rest)
    (read : read source = .ok template) : Balanced pieces := by
  rw [Template.read, cut.scan_eq, bind_eq_ok] at read
  obtain ⟨last, taken, closed⟩ := read
  have leaves : Leaves ([] ++ pieces) last.opened := Leaves.of_pieces (.none .nil) taken
  rw [List.nil_append, (Progress.of_close closed).1] at leaves
  cases leaves with
  | none balanced => exact balanced

end SelfCheck.Template
