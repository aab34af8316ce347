import SelfCheck.Proofs.Session.Replay

/-! One corrupted byte in a frame with a trailer.

The checksum of a frame changes with each of the bytes that it covers. So a byte that is corrupted
makes the checksum wrong, or spoils the trailer, which then counts for nothing; only the case of a
checksum digit and the choice among line ends do not matter.
-/

set_option autoImplicit false

namespace SelfCheck

namespace Frame

theorem foldl_byteSum (bytes : List UInt8) (start : UInt16) :
    bytes.foldl (fun sum b => sum + b.toUInt16) start = start + byteSum bytes := by
  induction bytes generalizing start with
  | nil => simp [byteSum]
  | cons b rest ih =>
    simp only [byteSum, List.foldl_cons]
    rw [ih, ih (0 + b.toUInt16), UInt16.zero_add, UInt16.add_assoc]

theorem byteSum_append (front back : List UInt8) :
    byteSum (front ++ back) = byteSum front + byteSum back := by
  simp only [byteSum, List.foldl_append]
  exact foldl_byteSum back _

theorem byteSum_cons (b : UInt8) (rest : List UInt8) :
    byteSum (b :: rest) = b.toUInt16 + byteSum rest := by
  rw [byteSum, List.foldl_cons, foldl_byteSum, UInt16.zero_add]

/-- Bytes that differ in one place have different checksums. -/
theorem checksum_ne {front back : List UInt8} {b byte : UInt8} (differs : byte ≠ b) :
    checksum (front ++ byte :: back) ≠ checksum (front ++ b :: back) := by
  intro same
  simp only [checksum, UInt16.neg_inj, byteSum_append, byteSum_cons, UInt16.add_right_inj,
    UInt16.add_left_inj, UInt8.toUInt16_inj] at same
  exact differs same

theorem upperHexDigit_inj :
    ∀ a < 16, ∀ b < 16, Text.upperHexDigit a = Text.upperHexDigit b → a = b := by decide

/-- A word is known by its four digits. -/
theorem hexWord_inj {a b : UInt16} (same : hexWord a = hexWord b) : a = b := by
  simp only [hexWord, String.ofList_inj, List.map_cons, List.map_nil, List.cons.injEq, and_true]
    at same
  obtain ⟨first, second, third, fourth⟩ := same
  have small (n : Nat) : n % 16 < 16 := Nat.mod_lt n (by decide)
  have first := upperHexDigit_inj _ (small _) _ (small _) first
  have second := upperHexDigit_inj _ (small _) _ (small _) second
  have third := upperHexDigit_inj _ (small _) _ (small _) third
  have fourth := upperHexDigit_inj _ (small _) _ (small _) fourth
  have wordA := a.toNat_lt
  have wordB := b.toNat_lt
  apply UInt16.toNat_inj.mp
  omega

/-- A checksum that is right for some bytes is wrong for others with another checksum. -/
theorem verifies_unique {covered other : List UInt8} {received : String}
    (right : verifies covered received = true) (also : verifies other received = true) :
    checksum other = checksum covered := by
  simp only [verifies, decide_eq_true_eq] at right also
  exact hexWord_inj (also.symm.trans right)

end Frame

namespace Message

open SelfCheck.Frame

/-! The line ends behind a frame. -/

def isLineEnd (b : UInt8) : Bool := b == carriageReturn || b == lineFeed

theorem not_isLineEnd_of_isHexByte :
    ∀ {b : UInt8}, isHexByte b = true → isLineEnd b = false := by
  intro b hex
  have digit : carriageReturn ≠ b ∧ lineFeed ≠ b := by
    constructor <;> rintro rfl <;> exact absurd hex (by decide)
  simp [isLineEnd, digit.1.symm, digit.2.symm]

theorem trimTerminators_append {tail : List UInt8} (ends : ∀ b ∈ tail, isLineEnd b = true)
    (raw : List UInt8) : trimTerminators (raw ++ tail) = trimTerminators raw := by
  simp only [trimTerminators, List.reverse_append]
  rw [List.dropWhile_append_of_pos]
  intro b member
  exact ends b (List.mem_reverse.mp member)

theorem trimTerminators_concat {b : UInt8} (inner : isLineEnd b = false) (raw : List UInt8) :
    trimTerminators (raw ++ [b]) = raw ++ [b] := by
  have stops : ¬isLineEnd b = true := by simp [inner]
  change ((raw ++ [b]).reverse.dropWhile isLineEnd).reverse = raw ++ [b]
  rw [List.reverse_append, List.reverse_singleton, List.singleton_append,
    List.dropWhile_cons_of_neg stops, List.reverse_cons, List.reverse_reverse]

theorem trimTerminators_hex {digits : List UInt8} (some : digits ≠ [])
    (hex : digits.all isHexByte = true) (raw : List UInt8) :
    trimTerminators (raw ++ digits) = raw ++ digits := by
  obtain ⟨front, last, rfl⟩ := (List.eq_nil_or_concat digits).resolve_left some
  rw [List.concat_eq_append, List.all_append, Bool.and_eq_true, List.all_cons,
    Bool.and_eq_true] at hex
  rw [List.concat_eq_append, ← List.append_assoc]
  exact trimTerminators_concat (not_isLineEnd_of_isHexByte hex.2.1) _

/-- A frame is what is read of it and line ends behind that. -/
theorem exists_lineEnds (frame : List UInt8) :
    ∃ tail, frame = trimTerminators frame ++ tail ∧ ∀ b ∈ tail, isLineEnd b = true := by
  refine ⟨(frame.reverse.takeWhile isLineEnd).reverse, ?_, ?_⟩
  · have whole := congrArg List.reverse
      (List.takeWhile_append_dropWhile (p := isLineEnd) (l := frame.reverse))
    rw [List.reverse_append, List.reverse_reverse] at whole
    exact whole.symm
  · intro b member
    exact List.all_eq_true.mp List.all_takeWhile b (List.mem_reverse.mp member)

theorem read_congr {frame other : List UInt8}
    (same : trimTerminators frame = trimTerminators other) (delimiter : UInt8) :
    read frame delimiter = read other delimiter := by
  unfold read
  rw [same]

/-! The trailer. -/

theorem hasChecksum_append {front tag digits : List UInt8} (long : 2 ≤ front.length)
    (two : tag.length = 2) (four : digits.length = 4) :
    hasChecksum (front ++ tag ++ digits) = (tag == checksumTag && digits.all isHexByte) := by
  have start : (front ++ tag ++ digits).length - 6 = front.length := by
    simp only [List.length_append, two, four]
    omega
  have middle : (front ++ tag ++ digits).length - 4 = (front ++ tag).length := by
    simp only [List.length_append, two, four]
    omega
  have enough : 8 ≤ (front ++ tag ++ digits).length := by
    simp only [List.length_append, two, four]
    omega
  unfold hasChecksum
  rw [middle, List.drop_left, start, decide_eq_true enough, List.append_assoc, List.drop_left,
    ← two, List.take_left, Bool.true_and]

theorem exists_of_hasChecksum {raw : List UInt8} (tagged : hasChecksum raw = true) :
    ∃ front digits, raw = front ++ checksumTag ++ digits ∧ 2 ≤ front.length ∧
      digits.length = 4 ∧ digits.all isHexByte = true := by
  simp only [hasChecksum, Bool.and_eq_true, decide_eq_true_eq, beq_iff_eq] at tagged
  obtain ⟨⟨long, tag⟩, digits⟩ := tagged
  refine ⟨raw.take (raw.length - 6), raw.drop (raw.length - 4), ?_, ?_, ?_, digits⟩
  · have behind : (raw.drop (raw.length - 6)).drop 2 = raw.drop (raw.length - 4) := by
      rw [List.drop_drop]
      congr 1
      omega
    rw [List.append_assoc, ← tag, ← behind, List.take_append_drop, List.take_append_drop]
  · rw [List.length_take]
    omega
  · rw [List.length_drop]
    omega

/-- Three digits are too few. -/
theorem hasChecksum_three {front digits : List UInt8} (three : digits.length = 3) :
    hasChecksum (front ++ checksumTag ++ digits) = false := by
  apply Bool.eq_false_iff.mpr
  intro tagged
  obtain ⟨before, four, whole, -, length, -⟩ := exists_of_hasChecksum tagged
  have parts : front ++ [65] ++ 90 :: digits = before ++ checksumTag ++ four := by
    rw [← whole]
    simp [checksumTag]
  have tags := (List.append_inj' parts (by simp [three, length])).1
  -- What would be the end of the tag is its beginning.
  have last := congrArg List.getLast? tags
  simp [checksumTag] at last

/-- Five bytes are too many. -/
theorem hasChecksum_five {front digits : List UInt8} (five : digits.length = 5) :
    hasChecksum (front ++ checksumTag ++ digits) = false := by
  apply Bool.eq_false_iff.mpr
  intro tagged
  obtain ⟨before, four, whole, -, length, -⟩ := exists_of_hasChecksum tagged
  obtain ⟨first, rest, rfl⟩ := List.exists_cons_of_length_pos (l := digits) (by omega)
  have parts : front ++ [65] ++ [90, first] ++ rest = before ++ checksumTag ++ four := by
    rw [← whole]
    simp [checksumTag]
  have fits : rest.length = four.length := by
    rw [List.length_cons] at five
    omega
  have tags := (List.append_inj' parts fits).1
  rw [checksumTag] at tags
  have last := (List.append_inj' tags rfl).2
  simp at last

/-- Without a whole trailer a message has no digit. -/
theorem sequence_of_unsealed {frame : List UInt8} {delimiter : UInt8} {message : Message}
    (bare : hasChecksum (trimTerminators frame) = false)
    (reads : read frame delimiter = .ok message) : message.sequence = none := by
  obtain ⟨unwrapped, rest, stages⟩ := exists_stages reads
  have opened := stages.opened
  unfold unwrap at opened
  rw [bare] at opened
  cases opened
  exact stages.sequence

/-- A frame with a trailer, and line ends behind it. -/
structure Trailed (frame head digits : List UInt8) : Prop where
  trimmed : trimTerminators frame = head ++ checksumTag ++ digits
  long : 2 ≤ head.length
  four : digits.length = 4
  hex : digits.all isHexByte = true

namespace Trailed

variable {frame head digits other digits' : List UInt8} {delimiter : UInt8}

theorem unwrap_eq (trailed : Trailed frame head digits) :
    unwrap (trimTerminators frame) =
      if verifies (head ++ checksumTag) (Text.decode digits) then
        takeSequence (Frame.checksum (head ++ checksumTag)) head
      else .error (.badChecksum (Frame.checksum (head ++ checksumTag)) (Text.decode digits)) := by
  obtain ⟨trimmed, long, four, hex⟩ := trailed
  have tagged : hasChecksum (head ++ checksumTag ++ digits) = true := by
    rw [hasChecksum_append long rfl four, hex]
    rfl
  have last : (head ++ checksumTag ++ digits).length - 4 = (head ++ checksumTag).length := by
    simp only [List.length_append, four]
    omega
  have front : (head ++ checksumTag ++ digits).length - 6 = head.length := by
    simp only [List.length_append, four, checksumTag, List.length_cons, List.length_nil]
    omega
  rw [trimmed]
  unfold unwrap
  rw [if_pos tagged]
  dsimp only
  rw [last, front, List.take_left, List.drop_left, List.append_assoc, List.take_left]

/-- A wrong checksum is an error. -/
theorem read_eq_error (trailed : Trailed frame head digits)
    (wrong : verifies (head ++ checksumTag) (Text.decode digits) = false) :
    ∃ fault, read frame delimiter = .error fault := by
  have long : 2 ≤ (trimTerminators frame).length := by
    rw [trailed.trimmed, List.append_assoc, List.length_append]
    exact Nat.le_add_right_of_le trailed.long
  exact ⟨_, read_of_refused long (trailed.unwrap_eq.trans (if_neg (by simp [wrong])))⟩

/-- The letter case of a checksum does not matter. -/
theorem read_eq (trailed : Trailed frame head digits) (also : Trailed other head digits')
    (right : verifies (head ++ checksumTag) (Text.decode digits) = true)
    (right' : verifies (head ++ checksumTag) (Text.decode digits') = true) :
    read other delimiter = read frame delimiter := by
  have code (last : List UInt8) : (head ++ checksumTag ++ last).take 2 = head.take 2 := by
    rw [List.append_assoc, List.take_append_of_le_length trailed.long]
  have length : (trimTerminators other).length = (trimTerminators frame).length := by
    rw [trailed.trimmed, also.trimmed]
    simp only [List.length_append, trailed.four, also.four]
  unfold read
  dsimp only
  rw [trailed.unwrap_eq, also.unwrap_eq, right, right', length, trailed.trimmed, also.trimmed,
    code, code, if_pos rfl, if_pos rfl]

end Trailed

/-- A message with a checksum comes from a frame with a trailer that is right. -/
theorem exists_trailed {frame : List UInt8} {delimiter : UInt8} {message : Message}
    (reads : read frame delimiter = .ok message) (summed : message.checksum.isSome = true) :
    ∃ head digits, Trailed frame head digits ∧
      verifies (head ++ checksumTag) (Text.decode digits) = true := by
  have whole := isSealed_eq reads
  rw [summed] at whole
  unfold isSealed at whole
  obtain ⟨tagged, -⟩ := Bool.and_eq_true_iff.mp whole
  obtain ⟨head, digits, trimmed, long, four, hex⟩ := exists_of_hasChecksum tagged
  have trailed : Trailed frame head digits := ⟨trimmed, long, four, hex⟩
  refine ⟨head, digits, trailed, ?_⟩
  cases right : verifies (head ++ checksumTag) (Text.decode digits) with
  | true => rfl
  | false =>
    obtain ⟨fault, fails⟩ := trailed.read_eq_error right
    rw [fails] at reads
    cases reads

/-! One byte that is another. -/

/-- The second bytes are the first ones but for one byte. -/
def Garbled (bytes other : List UInt8) : Prop :=
  ∃ front b byte back, byte ≠ b ∧ bytes = front ++ b :: back ∧ other = front ++ byte :: back

theorem garbled_set {bytes : List UInt8} {place : Nat} {byte : UInt8}
    (inside : place < bytes.length) (differs : byte ≠ bytes[place]) :
    Garbled bytes (bytes.set place byte) := by
  obtain ⟨front, back, whole, -, changed⟩ : ∃ front back, bytes = front ++ bytes[place] :: back ∧
      front.length = place ∧ bytes.set place byte = front ++ byte :: back :=
    List.exists_of_set inside
  exact ⟨front, bytes[place], byte, back, differs, whole, changed⟩

namespace Garbled

variable {bytes other first second : List UInt8}

theorem length_eq (garbled : Garbled bytes other) : other.length = bytes.length := by
  obtain ⟨front, b, byte, back, -, rfl, rfl⟩ := garbled
  simp

theorem ne (garbled : Garbled bytes other) : other ≠ bytes := by
  obtain ⟨front, b, byte, back, differs, rfl, rfl⟩ := garbled
  simp [differs]

theorem checksum_ne (garbled : Garbled bytes other) (back : List UInt8) :
    Frame.checksum (other ++ back) ≠ Frame.checksum (bytes ++ back) := by
  obtain ⟨front, b, byte, rest, differs, rfl, rfl⟩ := garbled
  rw [List.append_assoc, List.append_assoc, List.cons_append, List.cons_append]
  exact Frame.checksum_ne differs

/-- The byte stands in one of two parts. -/
theorem of_append (garbled : Garbled (first ++ second) other) :
    (∃ part, Garbled first part ∧ other = part ++ second) ∨
      ∃ part, Garbled second part ∧ other = first ++ part := by
  obtain ⟨front, b, byte, back, differs, whole, rfl⟩ := garbled
  rcases List.append_eq_append_iff.mp whole with ⟨between, rfl, rfl⟩ | ⟨between, rfl, inFirst⟩
  · exact .inr ⟨between ++ byte :: back, ⟨between, b, byte, back, differs, rfl, rfl⟩,
      List.append_assoc ..⟩
  · cases between with
    | nil =>
      rw [List.nil_append] at inFirst
      exact .inr ⟨byte :: back, ⟨[], b, byte, back, differs, inFirst.symm, rfl⟩, by simp⟩
    | cons head tail =>
      rw [List.cons_append, List.cons.injEq] at inFirst
      obtain ⟨rfl, rfl⟩ := inFirst
      exact .inl ⟨front ++ byte :: tail, ⟨front, b, byte, tail, differs, rfl, rfl⟩, by simp⟩

end Garbled

/-- Two frames that differ only in the letter case of their checksums and in the line ends behind
them. -/
def Recased (frame other : List UInt8) : Prop :=
  ∃ covered digits digits', trimTerminators frame = covered ++ digits ∧
    trimTerminators other = covered ++ digits' ∧ digits.length = 4 ∧
    Text.upperAscii (Text.decode digits') = Text.upperAscii (Text.decode digits)

/-- What can be read in place of a message. -/
inductive Misread (delimiter : UInt8) (message : Message) (frame other : List UInt8) : Prop where
  | faulty (fault : FrameError) : read other delimiter = .error fault → Misread ..
  | same : read other delimiter = .ok message → Recased frame other → Misread ..
  | unnumbered (different : Message) : read other delimiter = .ok different →
      different.sequence = none → Misread ..

namespace Misread

variable {delimiter : UInt8} {message : Message} {frame other : List UInt8}

theorem of_unsealed (bare : hasChecksum (trimTerminators other) = false) :
    Misread delimiter message frame other := by
  cases reads : read other delimiter with
  | error fault => exact .faulty fault reads
  | ok different => exact .unnumbered different reads (sequence_of_unsealed bare reads)

variable {head digits tail part : List UInt8}

/-- A byte that the checksum covers. -/
theorem of_covered (trailed : Trailed frame head digits)
    (right : verifies (head ++ checksumTag) (Text.decode digits) = true)
    (garbled : Garbled head part)
    (trimmed : trimTerminators other = part ++ checksumTag ++ digits) :
    Misread delimiter message frame other := by
  have long : 2 ≤ part.length := by
    rw [garbled.length_eq]
    exact trailed.long
  have also : Trailed other part digits := ⟨trimmed, long, trailed.four, trailed.hex⟩
  have wrong : verifies (part ++ checksumTag) (Text.decode digits) = false := by
    apply Bool.eq_false_iff.mpr
    intro right'
    exact garbled.checksum_ne checksumTag (verifies_unique right right')
  obtain ⟨fault, fails⟩ := also.read_eq_error wrong
  exact .faulty fault fails

/-- A byte of the tag. -/
theorem of_tag (trailed : Trailed frame head digits) (garbled : Garbled checksumTag part)
    (trimmed : trimTerminators other = head ++ part ++ digits) :
    Misread delimiter message frame other := by
  apply of_unsealed
  rw [trimmed, hasChecksum_append trailed.long garbled.length_eq trailed.four]
  simp [garbled.ne]

/-- A byte of the checksum itself. -/
theorem of_digits (trailed : Trailed frame head digits)
    (right : verifies (head ++ checksumTag) (Text.decode digits) = true)
    (reads : read frame delimiter = .ok message) (garbled : Garbled digits part)
    (trimmed : trimTerminators other = trimTerminators (head ++ checksumTag ++ part)) :
    Misread delimiter message frame other := by
  have four : part.length = 4 := garbled.length_eq.trans trailed.four
  cases hex : part.all isHexByte with
  | true =>
    have inner : part ≠ [] := by
      intro none
      simp [none] at four
    rw [trimTerminators_hex inner hex] at trimmed
    have also : Trailed other head part := ⟨trimmed, trailed.long, four, hex⟩
    cases right' : verifies (head ++ checksumTag) (Text.decode part) with
    | false =>
      obtain ⟨fault, fails⟩ := also.read_eq_error right'
      exact .faulty fault fails
    | true =>
      have same : read other delimiter = read frame delimiter := trailed.read_eq also right right'
      refine .same (same.trans reads) ⟨_, digits, part, trailed.trimmed, trimmed, trailed.four, ?_⟩
      simp only [verifies, decide_eq_true_eq] at right right'
      exact right'.trans right.symm
  | false =>
    apply of_unsealed
    have bare : hasChecksum (head ++ checksumTag ++ part) = false := by
      rw [hasChecksum_append trailed.long rfl four, hex, Bool.and_false]
    obtain ⟨front, b, byte, back, -, rfl, rfl⟩ := garbled
    have digit := trailed.hex
    simp only [List.all_append, List.all_cons, Bool.and_eq_true] at digit
    obtain ⟨inFront, -, inBack⟩ := digit
    rw [trimmed]
    by_cases last : back = []
    · subst last
      cases ends : isLineEnd byte with
      | false =>
        rw [← List.append_assoc, trimTerminators_concat ends, List.append_assoc]
        exact bare
      | true =>
        -- The last digit has become a line end, and is cut off with those behind it.
        have three : front.length = 3 := by
          rw [List.length_append, List.length_singleton] at four
          omega
        have inner : front ≠ [] := by
          intro none
          simp [none] at three
        rw [← List.append_assoc, trimTerminators_append (by simpa using ends),
          trimTerminators_hex inner inFront]
        exact hasChecksum_three three
    · have split : head ++ checksumTag ++ (front ++ byte :: back) =
          (head ++ checksumTag ++ front ++ [byte]) ++ back := by simp
      rw [split, trimTerminators_hex last inBack, ← split]
      exact bare

/-- A byte behind the checksum. -/
theorem of_lineEnds (trailed : Trailed frame head digits)
    (reads : read frame delimiter = .ok message) (ends : ∀ b ∈ tail, isLineEnd b = true)
    (garbled : Garbled tail part) (whole : other = head ++ checksumTag ++ digits ++ part) :
    Misread delimiter message frame other := by
  have inner : digits ≠ [] := by
    intro none
    simpa [none] using trailed.four
  obtain ⟨front, b, byte, back, -, rfl, rfl⟩ := garbled
  have inFront : ∀ e ∈ front, isLineEnd e = true := fun e member =>
    ends e (List.mem_append_left _ member)
  have inBack : ∀ e ∈ back, isLineEnd e = true := fun e member =>
    ends e (List.mem_append_right _ (List.mem_cons_of_mem _ member))
  cases also : isLineEnd byte with
  | true =>
    have trimmed : trimTerminators other = head ++ checksumTag ++ digits := by
      rw [whole, trimTerminators_append, trimTerminators_hex inner trailed.hex]
      intro e member
      rcases List.mem_append.mp member with early | late
      · exact inFront e early
      · rcases List.mem_cons.mp late with rfl | later
        · exact also
        · exact inBack e later
    refine .same ?_ ⟨_, digits, digits, trailed.trimmed, trimmed, trailed.four, rfl⟩
    rw [← reads]
    exact read_congr (trimmed.trans trailed.trimmed.symm) delimiter
  | false =>
    apply of_unsealed
    have trimmed : trimTerminators other = head ++ checksumTag ++ digits ++ front ++ [byte] := by
      have split : other = head ++ checksumTag ++ digits ++ front ++ [byte] ++ back := by
        rw [whole]
        simp
      rw [split, trimTerminators_append inBack, trimTerminators_concat also]
    rw [trimmed]
    rcases List.eq_nil_or_concat front with rfl | ⟨init, last, rfl⟩
    · rw [List.append_nil, List.append_assoc]
      apply hasChecksum_five
      rw [List.length_append, trailed.four]
      rfl
    · -- A line end in front of the byte would have to be a digit.
      apply Bool.eq_false_iff.mpr
      intro tagged
      obtain ⟨before, four, parts, -, length, hex⟩ := exists_of_hasChecksum tagged
      match four, length with
      | [first, second, third, fourth], _ =>
        have ending : head ++ checksumTag ++ digits ++ init ++ [last, byte] =
            before ++ checksumTag ++ [first, second] ++ [third, fourth] := by
          simpa using parts
        have same := (List.append_inj' ending rfl).2
        simp only [List.cons.injEq, and_true] at same
        obtain ⟨rfl, rfl⟩ := same
        simp only [List.all_cons, Bool.and_eq_true] at hex
        have isEnd := inFront last (by simp)
        rw [not_isLineEnd_of_isHexByte hex.2.2.1] at isEnd
        cases isEnd

end Misread

/-- Whatever byte of a frame with a digit and a checksum is corrupted: the frame has an error, or
keeps its message, or loses its digit. -/
theorem misread_of_garbled {delimiter : UInt8} {message : Message} {frame other : List UInt8}
    (reads : read frame delimiter = .ok message) (summed : message.checksum.isSome = true)
    (garbled : Garbled frame other) : Misread delimiter message frame other := by
  obtain ⟨head, digits, trailed, right⟩ := exists_trailed reads summed
  obtain ⟨tail, whole, ends⟩ := exists_lineEnds frame
  rw [trailed.trimmed] at whole
  have inner : digits ≠ [] := by
    intro none
    simpa [none] using trailed.four
  have trim (before : List UInt8) :
      trimTerminators (before ++ digits ++ tail) = before ++ digits := by
    rw [trimTerminators_append ends, trimTerminators_hex inner trailed.hex]
  rw [whole] at garbled
  rcases garbled.of_append with ⟨_, early, rfl⟩ | ⟨part, inTail, rfl⟩
  · rcases early.of_append with ⟨_, earlier, rfl⟩ | ⟨part, inDigits, rfl⟩
    · rcases earlier.of_append with ⟨part, inHead, rfl⟩ | ⟨part, inTag, rfl⟩
      · exact .of_covered trailed right inHead (trim _)
      · exact .of_tag trailed inTag (trim _)
    · exact .of_digits trailed right reads inDigits (trimTerminators_append ends _)
  · exact .of_lineEnds trailed reads ends inTail rfl

end Message

/-- Whoever executes nothing calls nobody. -/
theorem Deed.calls_eq_nil {deed : Deed} {frame : List UInt8} (takes : deed.frame? = some frame)
    (idle : deed.executed? = none) : deed.calls = [] := by
  cases deed with
  | dispatched => cases idle
  | resumed => cases takes
  | _ => rfl

/-- A frame with a message that has no digit is executed by no session with error detection. -/
theorem Turn.Move.executed?_of_unnumbered {setup : Setup} {caller : Nat} {turn after : Turn}
    {deed : Deed} (move : Move setup caller turn deed after)
    (detects : turn.settings.errorDetection = true) {frame : List UInt8} {message : Message}
    (takes : deed.frame? = some frame)
    (reads : Message.read frame (Session.fieldDelimiter turn.settings) = .ok message)
    (unnumbered : message.sequence = none) : deed.executed? = none := by
  have never {other : Message} (stated : Message.read frame
      (Session.fieldDelimiter turn.settings) = .ok other)
      (new : turn.session.sequence.classify other turn.settings.errorDetection = .fresh) :
      False := by
    rw [reads] at stated
    cases stated
    simp [Sequence.classify, detects, unnumbered] at new
  cases move with
  | refused _ stated _ new =>
    cases takes
    exact (never stated new).elim
  | dispatched _ stated _ new =>
    cases takes
    exact (never stated new).elim
  | _ => rfl

namespace Message

open SelfCheck.Frame

/-- However one byte of a frame with a right checksum is corrupted: reading it fails, or gives the
same message, for only the case of the checksum or a line end has changed, or gives a message
without a digit, which is never in order. With error detection the frame is not executed, then, or
executed as the same request. -/
theorem corrupted_byte_detected {delimiter : UInt8} {frame : List UInt8} {message : Message}
    (reads : read frame delimiter = .ok message) (summed : message.checksum.isSome = true)
    {place : Nat} {byte : UInt8} (inside : place < frame.length)
    (differs : byte ≠ frame[place]) :
    ((∃ fault, read (frame.set place byte) delimiter = .error fault) ∨
      (read (frame.set place byte) delimiter = .ok message ∧
        Recased frame (frame.set place byte)) ∨
      ∃ other, read (frame.set place byte) delimiter = .ok other ∧ other.sequence = none ∧
        ∀ sequence : Sequence, sequence.classify other true = .invalid) ∧
    ∀ {setup : Setup} {caller : Nat} {turn after : Turn} {deed : Deed},
      Turn.Move setup caller turn deed after → turn.settings.errorDetection = true →
      Session.fieldDelimiter turn.settings = delimiter →
      deed.frame? = some (frame.set place byte) →
      (deed.executed? = none ∧ after.calls = turn.calls) ∨ deed.executed? = some message := by
  have misread := misread_of_garbled reads summed (garbled_set inside differs)
  refine ⟨?_, ?_⟩
  · cases misread with
    | faulty fault fails => exact .inl ⟨fault, fails⟩
    | same also recased => exact .inr (.inl ⟨also, recased⟩)
    | unnumbered other also unnumbered =>
      refine .inr (.inr ⟨other, also, unnumbered, ?_⟩)
      intro sequence
      simp [Sequence.classify, unnumbered]
  · intro setup caller turn after deed move detects own takes
    subst own
    have idle (none : deed.executed? = none) :
        (deed.executed? = Option.none ∧ after.calls = turn.calls) ∨
          deed.executed? = some message := by
      refine .inl ⟨none, ?_⟩
      rw [move.calls_eq, Deed.calls_eq_nil takes none, List.append_nil]
    cases misread with
    | faulty fault fails =>
      apply idle
      cases move with
      | refused _ stated | dispatched _ stated =>
        cases takes
        rw [fails] at stated
        cases stated
      | _ => rfl
    | unnumbered other also unnumbered =>
      exact idle (move.executed?_of_unnumbered detects takes also unnumbered)
    | same also =>
      cases move with
      | refused _ stated | dispatched _ stated =>
        cases takes
        rw [also] at stated
        cases stated
        exact .inr rfl
      | _ => exact idle rfl

/-- A login whose password is corrupted, as a message and as a session's request. -/
theorem corrupted_byte_detected_password :
    let frame := encode "9300CNu|COp|" (.sequenced 0) carriageReturn
    let garbled := frame.set 10 113
    let session := Desk.session (Desk.policy true [])
    ∃ message, read frame 124 = .ok message ∧
      ((∃ fault, read garbled 124 = .error fault) ∨
        (read garbled 124 = .ok message ∧ Recased frame garbled) ∨
        ∃ other, read garbled 124 = .ok other ∧ other.sequence = none ∧
          ∀ sequence : Sequence, sequence.classify other true = .invalid) ∧
      ∃ deed after, Turn.Move Desk.setup 0
          (session.turn (Desk.shared (Desk.policy true []) (.empty 8))) deed after ∧
        deed.frame? = some garbled ∧
        ((deed.executed? = none ∧ after.calls = []) ∨ deed.executed? = some message) := by
  intro frame garbled session
  have sound : (read frame 124).toOption.any (·.checksum.isSome) = true := by decide +kernel
  cases reads : read frame 124 with
  | error fault => simp [reads, Except.toOption] at sound
  | ok message =>
    rw [reads] at sound
    have inside : 10 < frame.length := by decide +kernel
    have known : frame[10]? = some 112 := by decide +kernel
    have differs : (113 : UInt8) ≠ frame[10] := by
      rw [(List.getElem_eq_iff inside).mpr known]
      decide
    obtain ⟨misread, executes⟩ := corrupted_byte_detected reads sound inside differs
    have reading : (session.turn (Desk.shared (Desk.policy true [])
        (.empty 8))).session.isReading = true := by decide +kernel
    obtain ⟨deed, takes, move⟩ := Turn.move_handleFrame Desk.setup 0 reading garbled
    exact ⟨message, rfl, misread, deed, _, move, takes,
      executes move (by decide +kernel) (by decide +kernel) takes⟩

end Message

end SelfCheck
