import SelfCheck.Proofs.Template.Flaws
import SelfCheck.Template.Printer

/-! A template is read back from its source.

Sections are nested to any depth, and the reader keeps those that are open on a stack. Behind the
source of some nodes it goes on as if it had collected them, with the same sections open, whatever
these are.
-/

set_option autoImplicit false

namespace SelfCheck.Template

open SelfCheck.Text (Ahead)

/-! What can be written. -/

/-- A path that can stand in a tag of any kind. -/
structure PlainPath (path : String) : Prop where
  written : path ≠ ""
  trimmed : Text.trim path = path
  unmarked : ∀ c ∈ path.toList, c ∉ ['\x7b', '\x7d', ':']
  unsigned : ∀ c ∈ path.toList.head?, c ∉ ['?', '*', '/', '#']

instance (path : String) : Decidable (PlainPath path) :=
  decidable_of_iff (path ≠ "" ∧ Text.trim path = path ∧
      path.toList.all (· ∉ ['\x7b', '\x7d', ':']) = true ∧
      path.toList.head?.all (· ∉ ['?', '*', '/', '#']) = true) <| by
    simp only [List.all_eq_true, Option.all_eq_true, decide_eq_true_eq]
    exact ⟨fun ⟨written, trimmed, unmarked, unsigned⟩ => ⟨written, trimmed, unmarked, unsigned⟩,
      fun ⟨written, trimmed, unmarked, unsigned⟩ => ⟨written, trimmed, unmarked, unsigned⟩⟩

/-- Whether a node can be told from what stands behind it: two texts would be one, and a brace at
the end of a text would open the tag behind it. With `closed`, a closing tag stands behind the last
node. -/
def Node.isApart (closed : Bool) : Node → Option Node → Bool
  | .text _, some (.text _) => false
  | .text s, some _ => s.toList.getLast? ≠ some '\x7b'
  | .text s, none => !closed || s.toList.getLast? ≠ some '\x7b'
  | _, _ => true

mutual

/-- Whether a node can be read back. With `guarded`, texts are kept apart from closing tags too. -/
def Node.isWritable (guarded : Bool) : Node → Bool
  | .text s => s ≠ "" && !decide (openMark <:+: s.toList)
  | .value path width _ => decide (PlainPath path) && width.all (· ≤ Text.maxWord)
  | .block path _ body => decide (PlainPath path) && areWritable guarded guarded body

def areWritable (guarded closed : Bool) : List Node → Bool
  | [] => true
  | node :: nodes =>
    node.isWritable guarded && node.isApart closed nodes.head? && areWritable guarded closed nodes

end

variable {rest : List Char} {path : String} {width : Option Nat} {c : Char} {progress : Progress}

/-! Written tags. -/

theorem toList_tagText (inside : String) :
    (tagText inside).toList = openMark ++ (inside.toList ++ closeMark) := by
  simp only [tagText, String.toList_append, List.append_assoc]
  rfl

theorem scan_tagText {inside : String} (unmarked : '\x7d' ∉ inside.toList)
    (same : Text.trimChars inside.toList = inside.toList) (rest : List Char)
    (progress : Progress) :
    scan ((tagText inside).toList ++ rest) progress =
      progress.take (.ofChars inside.toList) >>= scan rest := by
  rw [toList_tagText, List.append_assoc, scan_tag (Text.ahead_of_not_mem unmarked), same,
    Progress.tag_eq]

namespace PlainPath

theorem toList_ne_nil (plain : PlainPath path) : path.toList ≠ [] := by
  simpa using plain.written

theorem trimChars_eq (plain : PlainPath path) : Text.trimChars path.toList = path.toList := by
  simpa [Text.trim] using congrArg String.toList plain.trimmed

theorem trimmed_eq (plain : PlainPath path) : Template.trimmed path.toList = path := plain.trimmed

theorem not_mem (plain : PlainPath path) (mark : c ∈ ['\x7b', '\x7d', ':']) : c ∉ path.toList :=
  fun member => plain.unmarked c member mark

end PlainPath

/-- A path behind the sign of its tag. -/
theorem scan_signed {sign : String} (plain : PlainPath path) (signed : sign.toList = [c])
    (inked : Text.isBlank c = false) (other : c ≠ '\x7d') (rest : List Char)
    (progress : Progress) :
    scan ((tagText (sign ++ path)).toList ++ rest) progress =
      progress.take (.ofChars (c :: path.toList)) >>= scan rest := by
  have chars : (sign ++ path).toList = [c] ++ path.toList := by
    rw [String.toList_append, signed]
  have single : Text.trimChars [c] = [c] :=
    Text.trimChars_eq_self.mpr ⟨by simpa using inked, by simpa using inked⟩
  rw [scan_tagText, chars]
  · rfl
  · rw [chars, List.mem_append, not_or]
    exact ⟨by simpa using other.symm, plain.not_mem (by simp)⟩
  · rw [chars]
    exact Text.trimChars_append (List.cons_ne_nil _ _) single plain.toList_ne_nil plain.trimChars_eq

/-! Written places. -/

theorem toList_widthText (w : Nat) : (widthText (some w)).toList = ':' :: Nat.toDigits 10 w := by
  rw [widthText, String.toList_append]
  exact congrArg (':' :: ·) Nat.toList_repr

theorem trimChars_toDigits (w : Nat) : Text.trimChars (Nat.toDigits 10 w) = Nat.toDigits 10 w := by
  have inked {c : Char} (member : c ∈ Nat.toDigits 10 w) : Text.isBlank c = false :=
    Text.isBlank_of_isDigit (Text.isDigit_of_mem_digits member)
  exact Text.trimChars_eq_self.mpr
    ⟨fun _ first => inked (List.mem_of_mem_head? first),
      fun _ last => inked (List.mem_of_mem_getLast? last)⟩

/-- What a place shows, behind its hash sign. -/
def shownText (path : String) (width : Option Nat) : String := path ++ widthText width

theorem PlainPath.shownText_ne_nil (plain : PlainPath path) (width : Option Nat) :
    (shownText path width).toList ≠ [] := by
  simp [shownText, plain.written]

theorem PlainPath.trimChars_shownText (plain : PlainPath path) (width : Option Nat) :
    Text.trimChars (shownText path width).toList = (shownText path width).toList := by
  rw [shownText, String.toList_append]
  cases width with
  | none => simpa [widthText] using plain.trimChars_eq
  | some w =>
    have colon : Text.trimChars ([':'] ++ Nat.toDigits 10 w) = [':'] ++ Nat.toDigits 10 w :=
      Text.trimChars_append (List.cons_ne_nil _ _) rfl Nat.toDigits_ne_nil (trimChars_toDigits w)
    rw [toList_widthText]
    exact Text.trimChars_append plain.toList_ne_nil plain.trimChars_eq (List.cons_ne_nil _ _) colon

theorem PlainPath.not_mem_shownText (plain : PlainPath path) (width : Option Nat) :
    '\x7d' ∉ (shownText path width).toList := by
  rw [shownText, String.toList_append, List.mem_append, not_or]
  refine ⟨plain.not_mem (by simp), ?_⟩
  cases width with
  | none => simp [widthText]
  | some w =>
    rw [toList_widthText, List.mem_cons, not_or]
    refine ⟨by decide, fun member => ?_⟩
    cases Text.isDigit_of_mem_digits member

/-- A place is read back. -/
theorem PlainPath.showing_eq (plain : PlainPath path) (small : width.all (· ≤ Text.maxWord) = true)
    (digit : Bool) :
    showing digit (shownText path width).toList = .ok (.value path width digit) := by
  have named : path.toList.isEmpty = false := by simpa using plain.written
  cases width with
  | none =>
    have chars : (shownText path none).toList = path.toList := by simp [shownText, widthText]
    rw [chars, showing_bare (plain.not_mem (by simp)), named]
    simp
  | some w =>
    have absent : ':' ∉ Nat.toDigits 10 w := by
      intro member
      cases Text.isDigit_of_mem_digits member
    rw [shownText, String.toList_append, toList_widthText, showing_wide absent, trimChars_toDigits,
      Text.readBounded?_toDigits (by simpa using small), plain.trimChars_eq, named, plain.trimmed_eq]
    rfl

theorem PlainPath.exists_cons (plain : PlainPath path) (width : Option Nat) :
    ∃ c cs, (shownText path width).toList = c :: cs ∧
      c ≠ '?' ∧ c ≠ '*' ∧ c ≠ '/' ∧ c ≠ '#' := by
  obtain ⟨c, cs, chars⟩ := List.exists_cons_of_ne_nil plain.toList_ne_nil
  refine ⟨c, cs ++ (widthText width).toList, ?_, ?_⟩
  · rw [shownText, String.toList_append, chars, List.cons_append]
  · simpa using plain.unsigned c (by simp [chars])

/-- What stands in a place. -/
def placeText (path : String) (width : Option Nat) (digit : Bool) : String :=
  (if digit then "#" else "") ++ shownText path width

theorem PlainPath.not_mem_placeText (plain : PlainPath path) (width : Option Nat) (digit : Bool) :
    '\x7d' ∉ (placeText path width digit).toList := by
  rw [placeText, String.toList_append, List.mem_append, not_or]
  refine ⟨?_, plain.not_mem_shownText width⟩
  cases digit <;> simp

theorem PlainPath.trimChars_placeText (plain : PlainPath path) (width : Option Nat) (digit : Bool) :
    Text.trimChars (placeText path width digit).toList = (placeText path width digit).toList := by
  cases digit with
  | false => simpa [placeText] using plain.trimChars_shownText width
  | true =>
    rw [placeText, String.toList_append]
    exact Text.trimChars_append (by simp) rfl (plain.shownText_ne_nil width)
      (plain.trimChars_shownText width)

theorem PlainPath.ofChars_placeText (plain : PlainPath path) (width : Option Nat) (digit : Bool) :
    Tag.ofChars (placeText path width digit).toList = .place (placeText path width digit).toList := by
  cases digit with
  | true => simp [placeText, Tag.ofChars]
  | false =>
    obtain ⟨c, cs, chars, unsigned⟩ := plain.exists_cons width
    simp [placeText, chars, Tag.ofChars, unsigned]

theorem PlainPath.placeholder_eq (plain : PlainPath path)
    (small : width.all (· ≤ Text.maxWord) = true) (digit : Bool) :
    placeholder (placeText path width digit).toList = .ok (.value path width digit) := by
  rw [Template.placeholder_eq, ← plain.showing_eq small digit]
  cases digit with
  | true =>
    have chars : (placeText path width true).toList = '#' :: (shownText path width).toList := by
      simp [placeText]
    rw [chars, List.head?_cons, shown, plain.trimChars_shownText]
    rfl
  | false =>
    obtain ⟨c, cs, chars, unsigned⟩ := plain.exists_cons width
    have bare : (c == '#') = false := by simp [unsigned]
    simp [placeText, chars, shown, unsigned, bare]

/-! Written nodes. -/

/-- What a text may stand in front of: nothing, or a tag that does not begin within it. -/
def Parted (text rest : List Char) : Prop :=
  rest = [] ∨ openMark <+: rest ∧ text.getLast? ≠ some '\x7b'

theorem Progress.finish_text (progress : Progress) (text : List Char) :
    (progress.text text).finish [] = progress.finish text := by
  unfold finish
  rw [text_opened, text_nil]

theorem scan_parted {text : List Char} (absent : ¬openMark <:+: text) (parted : Parted text rest)
    (progress : Progress) : scan (text ++ rest) progress = scan rest (progress.text text) := by
  rcases parted with rfl | ⟨⟨inside, rfl⟩, plain⟩
  · rw [List.append_nil, scan_of_absent absent, scan_nil, Progress.finish_text]
  · rw [← List.append_assoc]
    exact scan_text (Text.ahead_doubled.mpr ⟨absent, plain⟩) inside progress

/-- What stands behind some nodes: a tag, or nothing. -/
def Follows (closed : Bool) (rest : List Char) : Prop :=
  if closed then openMark <+: rest else rest = []

theorem tagText_prefix (inside : String) (rest : List Char) :
    openMark <+: (tagText inside).toList ++ rest := by
  rw [toList_tagText, List.append_assoc]
  exact List.prefix_append _ _

theorem parted_of_isApart {s : String} {nodes : List Node} {closed : Bool}
    (apart : (Node.text s).isApart closed nodes.head? = true) (follows : Follows closed rest) :
    Parted s.toList ((printNodes nodes).toList ++ rest) := by
  match nodes with
  | [] =>
    cases closed with
    | false => exact .inl follows
    | true => exact .inr ⟨follows, by simpa [Node.isApart] using apart⟩
  | .text _ :: _ => cases apart
  | .value path width digit :: nodes =>
    refine .inr ⟨?_, of_decide_eq_true apart⟩
    rw [printNodes, printNode, String.toList_append, List.append_assoc]
    exact tagText_prefix _ _
  | .block path each body :: nodes =>
    refine .inr ⟨?_, of_decide_eq_true apart⟩
    rw [printNodes, printNode]
    simp only [String.toList_append, List.append_assoc]
    exact tagText_prefix _ _

theorem scan_value (plain : PlainPath path) (small : width.all (· ≤ Text.maxWord) = true)
    (digit : Bool) (rest : List Char) (progress : Progress) :
    scan ((printNode (.value path width digit)).toList ++ rest) progress =
      scan rest ⟨progress.opened, .value path width digit :: progress.nodes⟩ := by
  have inside : (if digit then "#" else "") ++ path ++ widthText width =
      placeText path width digit := String.append_assoc
  rw [printNode, inside, scan_tagText (plain.not_mem_placeText width digit)
    (plain.trimChars_placeText width digit), plain.ofChars_placeText, Progress.take,
    plain.placeholder_eq small]
  rfl

/-- The tag of a section puts it on top of the open ones. -/
theorem scan_opening (plain : PlainPath path) (each : Bool) (rest : List Char)
    (progress : Progress) :
    scan ((tagText ((if each then "*" else "?") ++ path)).toList ++ rest) progress =
      scan rest ⟨⟨path, each, progress.nodes⟩ :: progress.opened, []⟩ := by
  cases each with
  | true =>
    rw [if_pos rfl, scan_signed (c := '*') plain rfl rfl (by decide), Tag.ofChars,
      plain.trimmed_eq]
    rfl
  | false =>
    rw [if_neg Bool.false_ne_true, scan_signed (c := '?') plain rfl rfl (by decide), Tag.ofChars,
      plain.trimmed_eq]
    rfl

/-- The closing tag takes it down, with the nodes that have been collected. -/
theorem scan_closing (plain : PlainPath path) (each : Bool) (before nodes : List Node)
    (opened : List Open) (rest : List Char) :
    scan ((tagText ("/" ++ path)).toList ++ rest) ⟨⟨path, each, before⟩ :: opened, nodes⟩ =
      scan rest ⟨opened, .block path each nodes.reverse :: before⟩ := by
  have same : path = Text.trim (String.ofList path.toList) := by
    rw [String.ofList_toList, plain.trimmed]
  -- The section on top has the path of the tag.
  rw [scan_signed (c := '/') plain rfl rfl (by decide), Tag.ofChars, Progress.take]
  dsimp only
  rw [if_pos same]
  rfl

/-! The reader goes on behind written nodes as if it had collected them. The sections that are open
stay as they are: a section in the nodes is put on top of them, and taken down by its own tag. -/

mutual

theorem scan_node (node : Node) (writable : node.isWritable true = true) {rest : List Char}
    (parted : ∀ s, node = .text s → Parted s.toList rest) (progress : Progress) :
    scan ((printNode node).toList ++ rest) progress =
      scan rest ⟨progress.opened, node :: progress.nodes⟩ := by
  match node with
  | .text s =>
    simp only [Node.isWritable, Bool.and_eq_true, decide_eq_true_eq, Bool.not_eq_true',
      decide_eq_false_iff_not] at writable
    obtain ⟨written, absent⟩ := writable
    have kept : progress.text s.toList = ⟨progress.opened, .text s :: progress.nodes⟩ := by
      simp [Progress.text, written]
    rw [printNode, scan_parted absent (parted s rfl), kept]
  | .value path width digit =>
    simp only [Node.isWritable, Bool.and_eq_true, decide_eq_true_eq] at writable
    exact scan_value writable.1 writable.2 digit rest progress
  | .block path each body =>
    simp only [Node.isWritable, Bool.and_eq_true, decide_eq_true_eq] at writable
    obtain ⟨plain, within⟩ := writable
    -- The body stands in front of the closing tag, so its last text must not end in a brace.
    have tag := tagText_prefix ("/" ++ path) rest
    simp only [printNode, String.toList_append, List.append_assoc]
    rw [scan_opening plain, scan_nodes body within tag, scan_closing plain]
    simp

theorem scan_nodes (nodes : List Node) {closed : Bool}
    (writable : areWritable true closed nodes = true) {rest : List Char}
    (follows : Follows closed rest) (progress : Progress) :
    scan ((printNodes nodes).toList ++ rest) progress =
      scan rest ⟨progress.opened, nodes.reverse ++ progress.nodes⟩ := by
  match nodes with
  | [] => rfl
  | node :: nodes =>
    simp only [areWritable, Bool.and_eq_true] at writable
    obtain ⟨⟨first, apart⟩, others⟩ := writable
    -- Only a text has to mind what stands behind it.
    have parted (s : String) (same : node = .text s) :
        Parted s.toList ((printNodes nodes).toList ++ rest) := by
      subst same
      exact parted_of_isApart apart follows
    rw [printNodes, String.toList_append, List.append_assoc, scan_node node first parted,
      scan_nodes nodes others follows, List.reverse_cons, List.append_assoc, List.singleton_append]

end

theorem read_print {template : Template} (writable : areWritable true false template.nodes = true) :
    read (print template) = .ok template := by
  calc
    read (print template) = scan ((printNodes template.nodes).toList ++ []) ⟨[], []⟩ := by
      rw [List.append_nil, read, print]
    _ = scan [] ⟨[], template.nodes.reverse ++ []⟩ := scan_nodes template.nodes writable rfl _
    _ = .ok template := by
      rw [scan_nil]
      simp [Progress.finish]

/-- A template is read back from its source; a source is refused exactly when something is wrong
with it, and for such a reason; and reading it takes one round for each of its tags. -/
theorem reader_inverts_printer :
    (∀ template : Template, areWritable true false template.nodes = true →
      read (print template) = .ok template) ∧
    (∀ source : String,
      (∃ first, read source = .error first) ↔ ∃ fault, Flaw source.toList fault) ∧
    (∀ (source : String) (fault : Fault), read source = .error fault →
      Flaw source.toList fault) ∧
    (∀ (source : String) (pieces : List Piece) (rest : List Char) (template : Template),
      Cut source.toList pieces rest → read source = .ok template → Balanced pieces) ∧
    ∀ source : String, ∃ pieces rest, Cut source.toList pieces rest ∧
      4 * pieces.length ≤ source.length ∧
      read source = Progress.pieces ⟨[], []⟩ pieces >>= (·.close rest) := by
  refine ⟨fun _ => read_print, fun _ => read_fails_iff, fun _ _ => flaw_of_error,
    fun _ _ _ _ => balanced_of_read, fun source => ?_⟩
  obtain ⟨pieces, rest, cut⟩ := exists_cut source.toList
  exact ⟨pieces, rest, cut, String.length_toList ▸ cut.length_le, cut.scan_eq _⟩

/-- A text in front of sections within each other. -/
def nestedSections : Template where
  nodes :=
    [.text "a\x7d",
      .block "p" true [.value "." (some 4) true, .block "q r" false [.text ": \x7b "]],
      .value "s" none false]

theorem reader_inverts_printer_nested :
    areWritable true false nestedSections.nodes = true ∧
    read (print nestedSections) = .ok nestedSections ∧
    (∃ pieces rest, Cut (print nestedSections).toList pieces rest ∧ Balanced pieces) ∧
    read "\x7b\x7b?p\x7d\x7d\x7b\x7b/q\x7d\x7d" = .error (.mismatched "p" "q") ∧
    Flaw "\x7b\x7b?p\x7d\x7d\x7b\x7b/q\x7d\x7d".toList (.mismatched "p" "q") := by
  obtain ⟨readBack, -, reported, balanced, cuts⟩ := reader_inverts_printer
  have writable : areWritable true false nestedSections.nodes = true := by decide +kernel
  have same := readBack nestedSections writable
  obtain ⟨pieces, rest, cut, -, -⟩ := cuts (print nestedSections)
  have plain : PlainPath "p" := by decide +kernel
  have tags : "\x7b\x7b?p\x7d\x7d\x7b\x7b/q\x7d\x7d".toList =
      (tagText ((if false then "*" else "?") ++ "p")).toList ++ ((tagText "/q").toList ++ []) := by
    decide +kernel
  have refused : read "\x7b\x7b?p\x7d\x7d\x7b\x7b/q\x7d\x7d" = .error (.mismatched "p" "q") := by
    rw [read, tags, scan_opening plain, scan_tagText (by decide +kernel) (by decide +kernel)]
    rfl
  exact ⟨writable, same, ⟨pieces, rest, cut, balanced _ _ _ _ cut same⟩, refused,
    reported _ _ refused⟩

/-- The brace in front of a closing tag is taken for one of the tag. -/
theorem unclosed_of_brace_before_closing :
    areWritable false false [.block "p" false [.text "a\x7b"]] = true ∧
    read (print ⟨[.block "p" false [.text "a\x7b"]]⟩) = .error (.unclosed "p") := by
  have plain : PlainPath "p" := by decide +kernel
  have ahead : Ahead openMark ['a'] := Text.ahead_of_not_mem (by decide)
  have inside : Ahead closeMark ['\x7b', '/', 'p'] := Text.ahead_of_not_mem (by decide)
  refine ⟨by decide +kernel, ?_⟩
  calc
    read (print ⟨[.block "p" false [.text "a\x7b"]]⟩) =
        scan ((tagText ((if false then "*" else "?") ++ "p")).toList ++
          (['a'] ++ openMark ++ (['\x7b', '/', 'p'] ++ closeMark ++ []))) ⟨[], []⟩ := by
      rw [read]
      congr 1
    _ = scan [] ⟨[⟨"p", false, []⟩], [.value "\x7b/p" none false, .text "a"]⟩ := by
      rw [scan_opening plain, scan_text ahead, scan_tag inside]
      rfl
    _ = .error (.unclosed "p") := scan_nil _

end SelfCheck.Template
