import SelfCheck.Proofs.Message.Positions
import SelfCheck.Proofs.Message.RoundTrip
import SelfCheck.Proofs.Message.Texts

/-! What is read is what was written.

A frame of ASCII bytes that can be read is the text of its message, part by part, and line ends
behind it. Only the letter case of the checksum may be another. So the reader takes nothing that the
printer does not write, and neither drops a byte nor adds one.
-/

set_option autoImplicit false

namespace SelfCheck.Message

open SelfCheck.Frame
open Text (bytesOf decode bytesOf_append bytesOf_decode length_decode not_mem_decode)

variable {delimiter : UInt8} {bytes rest : List UInt8}

/-- How a message is spelled by `covered`, which its checksum is computed of, and the digits of the
checksum. -/
structure Spelling (delimiter : Char) (message : Message) (covered digits : List UInt8) :
    Prop where
  printed : message.print delimiter = covered ++ bytesOf (Text.upperAscii (decode digits))
  digits_length : digits.length = if message.checksum.isSome then 4 else 0
  checksum : ∀ word, message.checksum = some word → word = Frame.checksum covered
  sequence : message.sequence.isSome = true → message.checksum.isSome = true
  code : message.code.length = 2
  command : message.command = Command.ofCode? message.code
  fixed : message.fixed.map (fun field => (field.name, field.value.length)) =
    (slots message.code).map fun slot => (slot.name, slot.width)
  tags : ∀ field ∈ message.tagged, field.tag.length = 2
  values : ∀ field ∈ message.tagged, delimiter ∉ field.value.toList

/-! The fields. -/

theorem bytes_of_readFixed {slots : List Slot} {fields : List FixedField}
    (ascii : ∀ b ∈ bytes, b < 128) (reads : readFixed slots bytes = .ok (fields, rest)) :
    bytes = (fields.map (·.value)).flatMap bytesOf ++ rest ∧
      fields.map (fun field => (field.name, field.value.length)) =
        slots.map fun slot => (slot.name, slot.width) := by
  induction slots generalizing bytes fields with
  | nil =>
    cases reads
    exact ⟨rfl, rfl⟩
  | cons slot slots ih =>
    obtain ⟨enough, others, rfl, inner⟩ := readFixed_cons_eq_ok reads
    have front : ∀ b ∈ bytes.take slot.width, b < 128 := fun b member =>
      ascii b (List.mem_of_mem_take member)
    obtain ⟨behind, widths⟩ := ih (fun b member => ascii b (List.mem_of_mem_drop member)) inner
    constructor
    · rw [List.map_cons, List.flatMap_cons, bytesOf_decode front, List.append_assoc, ← behind,
        List.take_append_drop]
    · rw [List.map_cons, List.map_cons, widths, length_decode front, List.length_take,
        Nat.min_eq_left enough]

theorem bytes_of_readTagged {fields : List TaggedField} (ascii : ∀ b ∈ bytes, b < 128)
    (reads : readTagged delimiter bytes = .ok fields) :
    let mark := Char.ofNat delimiter.toNat
    bytes = fields.flatMap (fun field => bytesOf (taggedText mark field)) ∧
      ∀ field ∈ fields, field.tag.length = 2 ∧ mark ∉ field.value.toList := by
  intro mark
  induction fields generalizing bytes with
  | nil =>
    obtain ⟨empty, -⟩ | ⟨_, _, _, _, _, -, -, none, -⟩ := readTagged_eq_ok reads
    · exact ⟨empty, fun _ member => (List.not_mem_nil member).elim⟩
    · cases none
  | cons field fields ih =>
    obtain ⟨-, none⟩ | ⟨a, b, value, more, others, rfl, absent, same, inner⟩ :=
      readTagged_eq_ok reads
    · cases none
    · cases same
      have tag : ∀ byte ∈ [a, b], byte < 128 := by
        intro byte member
        apply ascii byte
        rcases List.mem_cons.mp member with rfl | member
        · simp
        · simp [List.mem_singleton.mp member]
      have inside : ∀ byte ∈ value, byte < 128 := fun byte member =>
        ascii byte (by simp [member])
      have behind : ∀ byte ∈ more, byte < 128 := fun byte member =>
        ascii byte (by simp [member])
      have low : mark.toNat < 128 := by
        rw [Text.toNat_charOfByte]
        exact UInt8.lt_iff_toNat_lt.mp (ascii delimiter (by simp))
      have byte : Message.mark mark = delimiter := by
        rw [Message.mark, Text.toNat_charOfByte, UInt8.ofNat_toNat]
      obtain ⟨bytes_eq, each⟩ := ih behind inner
      constructor
      · rw [List.flatMap_cons, ← bytes_eq, bytesOf_taggedText low, taggedBytes, byte,
          bytesOf_decode tag, bytesOf_decode inside]
        simp
      · exact List.forall_mem_cons.mpr
          ⟨⟨length_decode tag, not_mem_decode inside absent⟩, each⟩

/-! The trailer. -/

/-- A sequence digit with its tag, or nothing. -/
def sequencePart : Option (Fin 10) → List UInt8
  | some digit => sequenceTag ++ [48 + UInt8.ofNat digit.val]
  | none => []

theorem trailerBytes_of_summed {message : Message} {word : UInt16}
    (summed : message.checksum = some word) :
    message.trailerBytes =
      sequencePart message.sequence ++ (checksumTag ++ bytesOf (hexWord word)) := by
  rw [trailerBytes, summed]
  cases message.sequence <;> rfl

theorem ofNat_of_isDigitByte {b : UInt8} (digit : isDigitByte b = true) :
    48 + UInt8.ofNat ((b.toNat - 48) % 10) = b := by
  simp only [isDigitByte, Bool.and_eq_true, decide_eq_true_eq, UInt8.le_iff_toNat_le,
    UInt8.reduceToNat] at digit
  apply UInt8.toNat_inj.mp
  simp only [UInt8.toNat_add, UInt8.toNat_ofNat', UInt8.reduceToNat]
  omega

theorem bytes_of_takeSequence {checksum : UInt16} {body : List UInt8} {unwrapped : Unwrapped}
    (taken : takeSequence checksum body = .ok unwrapped) :
    body = unwrapped.body ++ sequencePart unwrapped.sequence := by
  obtain rfl | ⟨front, b, rfl, -, digit, rfl⟩ := takeSequence_eq_ok taken
  · exact (List.append_nil body).symm
  · rw [sequencePart, ofNat_of_isDigitByte digit, List.append_assoc]

/-- What the trailer says is what stands behind the body. -/
theorem exists_of_unwrap {raw : List UInt8} {unwrapped : Unwrapped}
    (opened : unwrap raw = .ok unwrapped) :
    unwrapped = ⟨raw, none, none⟩ ∨ ∃ head digits,
      raw = head ++ checksumTag ++ digits ∧ digits.length = 4 ∧
        Text.upperAscii (decode digits) = hexWord (Frame.checksum (head ++ checksumTag)) ∧
        takeSequence (Frame.checksum (head ++ checksumTag)) head = .ok unwrapped := by
  cases tagged : hasChecksum raw with
  | false =>
    unfold unwrap at opened
    rw [tagged] at opened
    cases opened
    exact .inl rfl
  | true =>
    obtain ⟨head, digits, rfl, long, four, hex⟩ := exists_of_hasChecksum tagged
    have trimmed : trimTerminators (head ++ checksumTag ++ digits) = head ++ checksumTag ++ digits := by
      apply trimTerminators_hex _ hex
      rintro rfl
      cases four
    have trailed : Trailed (head ++ checksumTag ++ digits) head digits := ⟨trimmed, long, four, hex⟩
    have unwrapped_eq := trailed.unwrap_eq
    rw [trimmed, opened] at unwrapped_eq
    split at unwrapped_eq
    · next right =>
      exact .inr ⟨head, digits, rfl, four, of_decide_eq_true right, unwrapped_eq.symm⟩
    · cases unwrapped_eq

theorem exists_trailer {raw : List UInt8} {unwrapped : Unwrapped}
    (opened : unwrap raw = .ok unwrapped) : ∃ trailer, raw = unwrapped.body ++ trailer := by
  obtain rfl | ⟨head, digits, rfl, -, -, taken⟩ := exists_of_unwrap opened
  · exact ⟨[], (List.append_nil raw).symm⟩
  · rw [bytes_of_takeSequence taken, List.append_assoc, List.append_assoc]
    exact ⟨_, rfl⟩

/-! The whole frame. -/

theorem bytesOf_parts (mark : Char) (code : String) (fixed : List String)
    (tagged : List TaggedField) :
    bytesOf (body mark code fixed tagged) = bytesOf code ++
      (fixed.flatMap bytesOf ++ tagged.flatMap fun field => bytesOf (taggedText mark field)) := by
  rw [body, bytesOf_append, bytesOf_append, bytesOf_join, bytesOf_join, List.flatMap_map,
    List.append_assoc]

theorem last_of_trimTerminators {raw : List UInt8} {b : UInt8}
    (last : (trimTerminators raw).getLast? = some b) : isLineEnd b = false := by
  rw [trimTerminators, List.getLast?_reverse] at last
  have stops := List.head?_dropWhile_not isLineEnd raw.reverse
  change (raw.reverse.dropWhile isLineEnd).head? = some b at last
  rw [last] at stops
  exact stops

namespace Stages

variable {frame : List UInt8} {message : Message} {unwrapped : Unwrapped}

/-- The code stands at the front of the body. -/
theorem code_eq (stages : Stages delimiter frame message unwrapped rest) :
    message.code = decode (unwrapped.body.take 2) := by
  obtain ⟨trailer, whole⟩ := exists_trailer stages.opened
  have two := two_le_of_unwrap stages.long stages.opened
  rw [stages.code, whole, List.take_append_of_le_length two]

theorem body_ascii (stages : Stages delimiter frame message unwrapped rest)
    (ascii : ∀ b ∈ frame, b < 128) : ∀ b ∈ unwrapped.body, b < 128 := fun b member =>
  ascii b (trimTerminators_subset frame (unwrap_subset stages.opened member))

/-- The body that is left without the trailer is the text of the message. -/
theorem spells (stages : Stages delimiter frame message unwrapped rest)
    (ascii : ∀ b ∈ frame, b < 128) :
    let mark := Char.ofNat delimiter.toNat
    bytesOf (body mark message.code (message.fixed.map (·.value)) message.tagged) =
        unwrapped.body ∧
      message.code.length = 2 ∧
      message.fixed.map (fun field => (field.name, field.value.length)) =
        (slots message.code).map (fun slot => (slot.name, slot.width)) ∧
      ∀ field ∈ message.tagged, field.tag.length = 2 ∧ mark ∉ field.value.toList := by
  intro mark
  have low := stages.body_ascii ascii
  have front : ∀ b ∈ unwrapped.body.take 2, b < 128 := fun b member =>
    low b (List.mem_of_mem_take member)
  have behind : ∀ b ∈ unwrapped.body.drop 2, b < 128 := fun b member =>
    low b (List.mem_of_mem_drop member)
  obtain ⟨positional, widths⟩ := bytes_of_readFixed behind stages.fixed
  have final : ∀ b ∈ rest, b < 128 := fun b member =>
    behind b (by rw [positional]; exact List.mem_append_right _ member)
  obtain ⟨tagged, each⟩ := bytes_of_readTagged final stages.tagged
  have two := two_le_of_unwrap stages.long stages.opened
  refine ⟨?_, ?_, ?_, each⟩
  · rw [bytesOf_parts, ← tagged, ← positional, stages.code_eq, bytesOf_decode front,
      List.take_append_drop]
  · rw [stages.code_eq, length_decode front, List.length_take, Nat.min_eq_left two]
  · rw [widths, stages.command, slots]

/-- Together with the trailer it is the frame, but for the line ends. -/
theorem spelling (stages : Stages delimiter frame message unwrapped rest)
    (ascii : ∀ b ∈ frame, b < 128) :
    ∃ covered digits, trimTerminators frame = covered ++ digits ∧
      Spelling (Char.ofNat delimiter.toNat) message covered digits := by
  obtain ⟨spelled, code, widths, each⟩ := stages.spells ascii
  have tags : ∀ field ∈ message.tagged, field.tag.length = 2 := fun field member =>
    (each field member).1
  have values : ∀ field ∈ message.tagged, Char.ofNat delimiter.toNat ∉ field.value.toList :=
    fun field member => (each field member).2
  have printed : message.print (Char.ofNat delimiter.toNat) =
      unwrapped.body ++ message.trailerBytes := by
    rw [print, spelled]
  obtain bare | ⟨head, digits, whole, four, right, taken⟩ := exists_of_unwrap stages.opened
  · have sequence : message.sequence = none := by rw [stages.sequence, bare]
    have checksum : message.checksum = none := by rw [stages.checksum, bare]
    refine ⟨trimTerminators frame, [], (List.append_nil _).symm, {
      printed := ?_
      digits_length := by rw [checksum]; rfl
      checksum := by rw [checksum]; exact fun _ none => nomatch none
      sequence := by rw [sequence]; exact fun none => nomatch none
      code, command := stages.command, fixed := widths, tags, values }⟩
    rw [printed, trailerBytes, sequence, checksum, bare]
    rfl
  · have checksum : message.checksum = some (Frame.checksum (head ++ checksumTag)) := by
      rw [stages.checksum, takeSequence_checksum taken]
    refine ⟨head ++ checksumTag, digits, whole, {
      printed := ?_
      digits_length := by rw [checksum, four]; rfl
      checksum := by rw [checksum]; exact fun word same => (Option.some.inj same).symm
      sequence := by rw [checksum]; exact fun _ => rfl
      code, command := stages.command, fixed := widths, tags, values }⟩
    rw [printed, trailerBytes_of_summed checksum, stages.sequence, right, ← List.append_assoc,
      ← bytes_of_takeSequence taken, List.append_assoc]

end Stages

/-- Reading never cuts beyond a frame, and a frame of ASCII bytes that is read is the text of its
message and line ends behind it: the code, the positional fields as wide as their slots, the tagged
fields each with its delimiter, the digit and the right checksum in either letter case. -/
theorem read_as_written (frame : List UInt8) (delimiter : UInt8) :
    readAt? frame delimiter = some (read frame delimiter) ∧
      ∀ message, (∀ b ∈ frame, b < 128) → read frame delimiter = .ok message →
        ∃ covered digits ends, frame = covered ++ digits ++ ends ∧
          (∀ b ∈ ends, isLineEnd b = true) ∧
          (∀ b, (covered ++ digits).getLast? = some b → isLineEnd b = false) ∧
          Spelling (Char.ofNat delimiter.toNat) message covered digits := by
  refine ⟨readAt?_eq frame delimiter, ?_⟩
  intro message ascii reads
  obtain ⟨unwrapped, rest, stages⟩ := exists_stages reads
  obtain ⟨covered, digits, whole, spelling⟩ := stages.spelling ascii
  obtain ⟨ends, parts, lineEnds⟩ := exists_lineEnds frame
  rw [whole] at parts
  refine ⟨covered, digits, ends, parts, lineEnds, ?_, spelling⟩
  intro b last
  rw [← whole] at last
  exact last_of_trimTerminators last

/-- A login whose checksum is written in lower case, with two line ends behind it. -/
theorem read_as_written_lowercase :
    let frame := bytesOf "9300CNuser|COpass|CPloc|AY0AZf5f1\r\n"
    let message : Message := {
      code := "93", command := some .login
      fixed := [⟨"uid_algorithm", "0"⟩, ⟨"pwd_algorithm", "0"⟩]
      tagged := [⟨"CN", "user"⟩, ⟨"CO", "pass"⟩, ⟨"CP", "loc"⟩]
      sequence := some 0, checksum := some 0xF5F1 }
    (∀ b ∈ frame, b < 128) ∧ read frame 124 = .ok message ∧
      readAt? frame 124 = some (.ok message) ∧
      ∃ covered digits ends, frame = covered ++ digits ++ ends ∧
        (∀ b ∈ ends, isLineEnd b = true) ∧
        (∀ b, (covered ++ digits).getLast? = some b → isLineEnd b = false) ∧
        Spelling '|' message covered digits := by
  intro frame message
  have ascii : ∀ b ∈ frame, b < 128 := by decide +kernel
  have reads : read frame 124 = .ok message := ok_of_toOption (by decide +kernel)
  obtain ⟨whole, spelled⟩ := read_as_written frame 124
  rw [reads] at whole
  exact ⟨ascii, reads, whole, spelled message ascii reads⟩

end SelfCheck.Message
