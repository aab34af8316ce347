import SelfCheck.Message.Printer
import SelfCheck.Proofs.Frame.Split
import SelfCheck.Proofs.Message.Corruption
import SelfCheck.Proofs.Text.Decoding

/-! A message read back from the frame that it was written into.

The code and the positional fields are found by their places, the tagged fields by the delimiter
behind each, and the trailer by its place at the end. So none of them depends on what the others
say: a text that looks like a trailer stays a text.
-/

set_option autoImplicit false

namespace SelfCheck

namespace Frame

/-! The digits of a checksum. -/

theorem hexWord_bytes (word : UInt16) :
    (Text.bytesOf (hexWord word)).length = 4 ∧
      (Text.bytesOf (hexWord word)).all Message.isHexByte = true := by
  have digits : ∀ n < 16,
      String.utf8EncodeChar (Text.upperHexDigit n) = [UInt8.ofNat (Text.upperHexDigit n).toNat] ∧
        Message.isHexByte (UInt8.ofNat (Text.upperHexDigit n).toNat) = true := by decide
  have digit (n : Nat) := digits (n % 16) (Nat.mod_lt _ (by decide))
  unfold Text.bytesOf hexWord
  simp [digit]

theorem upperAscii_hexWord (word : UInt16) : Text.upperAscii (hexWord word) = hexWord word := by
  have digits : ∀ n < 16, (Text.upperHexDigit n).toUpper = Text.upperHexDigit n := by decide
  have digit (n : Nat) := digits (n % 16) (Nat.mod_lt _ (by decide))
  unfold Text.upperAscii hexWord
  simp [digit]

/-- A checksum that has just been computed is right. -/
theorem verifies_hexWord (covered : List UInt8) :
    verifies covered (Text.decode (Text.bytesOf (hexWord (checksum covered)))) = true := by
  rw [Text.decode_bytesOf, verifies, upperAscii_hexWord]
  exact decide_eq_true rfl

/-- A sequence digit is a digit, and says its number modulo ten. -/
theorem sequenceDigit_value (number : UInt8) :
    Message.isDigitByte (sequenceDigit number) = true ∧
      (sequenceDigit number).toNat - 48 = number.toNat % 10 := by
  have value : (sequenceDigit number).toNat = 48 + number.toNat % 10 := by
    simp only [sequenceDigit, UInt8.toNat_add, UInt8.toNat_mod, UInt8.reduceToNat]
    omega
  refine ⟨?_, by omega⟩
  simp only [Message.isDigitByte, UInt8.le_iff_toNat_le, value, UInt8.reduceToNat,
    Bool.and_eq_true, decide_eq_true_eq]
  omega

end Frame

namespace Message

open SelfCheck.Frame
open Text (bytesOf decode bytesOf_append decode_bytesOf)

/-- The positional fields behind a code. -/
def slots (code : String) : List Slot := ((Command.ofCode? code).map Command.layout).getD []

/-- Texts that make up a message: a code of two ASCII characters, positional fields as wide as their
slots, and tagged fields with tags of two bytes and values without the field delimiter. -/
structure Writable (delimiter : Char) (code : String) (fixed : List String)
    (tagged : List TaggedField) : Prop where
  delimiter_ascii : delimiter.toNat < 128
  code_length : code.length = 2
  code_ascii : ∀ c ∈ code.toList, c.toNat < 128
  widths : fixed.map (fun value => (bytesOf value).length) = (slots code).map Slot.width
  tags : ∀ field ∈ tagged, (bytesOf field.tag).length = 2
  values : ∀ field ∈ tagged, delimiter ∉ field.value.toList

/-- The message with some parts. -/
def ofParts (code : String) (fixed : List String) (tagged : List TaggedField)
    (sequence : Option (Fin 10)) (checksum : Option UInt16) : Message where
  code
  command := Command.ofCode? code
  fixed := ((slots code).zip fixed).map fun (slot, value) => ⟨slot.name, value⟩
  tagged
  sequence
  checksum

/-- The byte of a field delimiter. -/
def mark (delimiter : Char) : UInt8 := UInt8.ofNat delimiter.toNat

/-- A tagged field as it stands in a frame. -/
def taggedBytes (delimiter : Char) (field : TaggedField) : List UInt8 :=
  bytesOf field.tag ++ bytesOf field.value ++ [mark delimiter]

variable {delimiter : Char} {code : String} {fixed : List String} {tagged : List TaggedField}

/-! What is written. -/

theorem bytesOf_join (texts : List String) :
    bytesOf (String.join texts) = texts.flatMap bytesOf := by
  unfold bytesOf
  rw [String.toList_join, List.flatMap_assoc]

theorem bytesOf_taggedText (ascii : delimiter.toNat < 128) (field : TaggedField) :
    bytesOf (taggedText delimiter field) = taggedBytes delimiter field := by
  have single : bytesOf delimiter.toString = [mark delimiter] := by
    simp [bytesOf, mark, Text.utf8EncodeChar_ascii ascii]
  rw [taggedText, taggedBytes, bytesOf_append, bytesOf_append, single]

theorem bytesOf_body (ascii : delimiter.toNat < 128) :
    bytesOf (body delimiter code fixed tagged) =
      bytesOf code ++ (fixed.flatMap bytesOf ++ tagged.flatMap (taggedBytes delimiter)) := by
  rw [body, bytesOf_append, bytesOf_append, bytesOf_join, bytesOf_join, List.flatMap_map,
    List.append_assoc]
  simp only [bytesOf_taggedText ascii]

/-! Reading each part, whatever stands behind it. -/

/-- Positional fields are read by their widths. -/
theorem readFixed_append {slots : List Slot} {values : List String}
    (widths : values.map (fun value => (bytesOf value).length) = slots.map Slot.width)
    (rest : List UInt8) :
    readFixed slots (values.flatMap bytesOf ++ rest) =
      .ok ((slots.zip values).map fun (slot, value) => ⟨slot.name, value⟩, rest) := by
  induction slots generalizing values with
  | nil =>
    obtain rfl : values = [] := by simpa using widths
    rfl
  | cons slot slots ih =>
    cases values with
    | nil => cases widths
    | cons value values =>
      simp only [List.map_cons, List.cons.injEq] at widths
      obtain ⟨width, widths⟩ := widths
      rw [List.flatMap_cons, List.append_assoc, readFixed, ← width, List.drop_left,
        List.take_left, ih widths, decode_bytesOf, if_neg (by simp)]
      rfl

theorem mark_not_mem (ascii : delimiter.toNat < 128) {value : String}
    (free : delimiter ∉ value.toList) : mark delimiter ∉ bytesOf value :=
  mt (Text.mem_bytesOf ascii).mp free

theorem readTagged_cons {a b m : UInt8} {value : List UInt8} (free : m ∉ value)
    (rest : List UInt8) :
    readTagged m (a :: b :: (value ++ m :: rest)) =
      (readTagged m rest).map (⟨decode [a, b], decode value⟩ :: ·) := by
  obtain ⟨taken, dropped⟩ := takeWhile_append_cons free rest
  rw [readTagged]
  split
  · next ends =>
    rw [dropped] at ends
    cases ends
  · next first more found =>
    rw [dropped] at found
    cases found
    rw [taken]
    rfl

theorem exists_of_two {bytes : List UInt8} (two : bytes.length = 2) :
    ∃ a b, bytes = [a, b] := by
  rcases bytes with _ | ⟨a, _ | ⟨b, rest⟩⟩
  · cases two
  · cases two
  · have done : rest = [] := by simpa using two
    exact ⟨a, b, by rw [done]⟩

/-- Tagged fields are read up to their delimiters. -/
theorem readTagged_flatMap (ascii : delimiter.toNat < 128)
    (tags : ∀ field ∈ tagged, (bytesOf field.tag).length = 2)
    (values : ∀ field ∈ tagged, delimiter ∉ field.value.toList) :
    readTagged (mark delimiter) (tagged.flatMap (taggedBytes delimiter)) = .ok tagged := by
  induction tagged with
  | nil => rw [List.flatMap_nil, readTagged]
  | cons field fields ih =>
    obtain ⟨two, tags⟩ := List.forall_mem_cons.mp tags
    obtain ⟨free, values⟩ := List.forall_mem_cons.mp values
    obtain ⟨a, b, tag⟩ := exists_of_two two
    have whole : (field :: fields).flatMap (taggedBytes delimiter) =
        a :: b :: (bytesOf field.value ++ mark delimiter ::
          fields.flatMap (taggedBytes delimiter)) := by
      simp [taggedBytes, tag]
    rw [whole, readTagged_cons (mark_not_mem ascii free), ih tags values, ← tag, decode_bytesOf,
      decode_bytesOf]
    rfl

/-- A sequence digit is taken off the end. -/
theorem takeSequence_append {front : List UInt8} (long : 2 ≤ front.length) (number : UInt8)
    (checksum : UInt16) :
    takeSequence checksum (front ++ sequenceTag ++ [sequenceDigit number]) =
      .ok ⟨front, some ⟨number.toNat % 10, Nat.mod_lt _ (by decide)⟩, some checksum⟩ := by
  obtain ⟨digit, value⟩ := sequenceDigit_value number
  simp only [takeSequence_tagged long, digit, value, if_true, Nat.mod_mod]

/-! The whole frame. -/

theorem values_ofParts (writable : Writable delimiter code fixed tagged)
    (sequence : Option (Fin 10)) (checksum : Option UInt16) :
    (ofParts code fixed tagged sequence checksum).fixed.map (·.value) = fixed := by
  have same : fixed.length = (slots code).length := by
    simpa using congrArg List.length writable.widths
  rw [ofParts, List.map_map]
  exact List.map_snd_zip (Nat.le_of_eq same)

theorem Writable.two (writable : Writable delimiter code fixed tagged) :
    (bytesOf code).length = 2 :=
  (Text.length_bytesOf writable.code_ascii).trans writable.code_length

theorem Writable.body_eq (writable : Writable delimiter code fixed tagged) :
    bytesOf (body delimiter code fixed tagged) =
      bytesOf code ++ (fixed.flatMap bytesOf ++ tagged.flatMap (taggedBytes delimiter)) :=
  bytesOf_body writable.delimiter_ascii

/-- Once the trailer is off, the parts are read in their order. -/
theorem read_of_unwrap (writable : Writable delimiter code fixed tagged)
    {frame trailer : List UInt8} {sequence : Option (Fin 10)} {checksum : Option UInt16}
    (trimmed : trimTerminators frame = bytesOf (body delimiter code fixed tagged) ++ trailer)
    (opened : unwrap (trimTerminators frame) =
      .ok ⟨bytesOf (body delimiter code fixed tagged), sequence, checksum⟩) :
    read frame (mark delimiter) = .ok (ofParts code fixed tagged sequence checksum) := by
  have two := writable.two
  rw [writable.body_eq, List.append_assoc] at trimmed
  have front : (trimTerminators frame).take 2 = bytesOf code := by
    rw [trimmed, ← two, List.take_left]
  have enough : ¬(trimTerminators frame).length < 2 := by
    rw [trimmed, List.length_append]
    omega
  have behind : (bytesOf (body delimiter code fixed tagged)).drop 2 =
      fixed.flatMap bytesOf ++ tagged.flatMap (taggedBytes delimiter) := by
    rw [writable.body_eq, ← two, List.drop_left]
  unfold read
  dsimp only
  rw [if_neg enough, opened, front, decode_bytesOf]
  dsimp only [bind, Except.bind]
  have positional := readFixed_append writable.widths (tagged.flatMap (taggedBytes delimiter))
  rw [slots] at positional
  rw [behind, positional]
  dsimp only
  rw [readTagged_flatMap writable.delimiter_ascii writable.tags writable.values]
  rfl

/-- A sealed frame is opened again. -/
theorem trailed_sealed {head : List UInt8} (long : 2 ≤ head.length) {terminator : UInt8}
    (ends : isLineEnd terminator = true) :
    Trailed (sealed head ++ [terminator]) head
      (bytesOf (hexWord (Frame.checksum (head ++ checksumTag)))) := by
  obtain ⟨four, hex⟩ := hexWord_bytes (Frame.checksum (head ++ checksumTag))
  have some : bytesOf (hexWord (Frame.checksum (head ++ checksumTag))) ≠ [] := by
    intro none
    rw [none] at four
    cases four
  refine ⟨?_, long, four, hex⟩
  rw [trimTerminators_append (by simpa using ends), sealed, trimTerminators_hex some hex]

/-- A frame whose last byte is no hexadecimal digit has no checksum. -/
theorem hasChecksum_concat {b : UInt8} (digit : isHexByte b = false) (front : List UInt8) :
    hasChecksum (front ++ [b]) = false := by
  apply Bool.eq_false_iff.mpr
  intro tagged
  obtain ⟨before, digits, whole, -, four, hex⟩ := exists_of_hasChecksum tagged
  have some : digits ≠ [] := by
    rintro rfl
    cases four
  obtain ⟨init, last, rfl⟩ := (List.eq_nil_or_concat digits).resolve_left some
  rw [List.concat_eq_append, ← List.append_assoc] at whole
  cases (List.append_inj' whole rfl).2
  rw [List.all_eq_true] at hex
  rw [hex b (by simp)] at digit
  cases digit

/-- The last byte of tagged fields is the field delimiter. -/
theorem Writable.exists_concat (writable : Writable delimiter code fixed tagged)
    (some : tagged ≠ []) :
    ∃ front, bytesOf (body delimiter code fixed tagged) = front ++ [mark delimiter] := by
  obtain ⟨fields, field, rfl⟩ := (List.eq_nil_or_concat tagged).resolve_left some
  refine ⟨bytesOf code ++ (fixed.flatMap bytesOf ++ (fields.flatMap (taggedBytes delimiter) ++
    (bytesOf field.tag ++ bytesOf field.value))), ?_⟩
  rw [writable.body_eq]
  simp [taggedBytes]

/-- A message is read back from its frame, with all its parts in their order, whatever they say.
With a trailer it has the trailer's digit and checksum. Without one it has neither, if the field
delimiter, which is its last byte, is neither a hexadecimal digit nor a line end. -/
theorem parts_read_back (writable : Writable delimiter code fixed tagged) (number : UInt8)
    {terminator : UInt8} (ends : isLineEnd terminator = true) :
    let text := body delimiter code fixed tagged
    let covered := bytesOf text ++ sequenceTag ++ [sequenceDigit number] ++ checksumTag
    (∀ sequence checksum,
      (ofParts code fixed tagged sequence checksum).fixed.map (·.value) = fixed) ∧
    read (encode text (.sequenced number) terminator) (mark delimiter) =
      .ok (ofParts code fixed tagged (some ⟨number.toNat % 10, Nat.mod_lt _ (by decide)⟩)
        (some (Frame.checksum covered))) ∧
    (tagged ≠ [] → isHexByte (mark delimiter) = false → isLineEnd (mark delimiter) = false →
      read (encode text .none terminator) (mark delimiter) =
        .ok (ofParts code fixed tagged none none)) := by
  intro text covered
  have long : 2 ≤ (bytesOf text).length := by
    rw [writable.body_eq, List.length_append, writable.two]
    omega
  refine ⟨values_ofParts writable, ?_, ?_⟩
  · have head : 2 ≤ (bytesOf text ++ sequenceTag ++ [sequenceDigit number]).length := by
      rw [List.append_assoc, List.length_append]
      omega
    have trailed := trailed_sealed head ends
    have trimmed : trimTerminators (encode text (.sequenced number) terminator) =
        bytesOf text ++ (sequenceTag ++ [sequenceDigit number] ++ checksumTag ++
          bytesOf (hexWord (Frame.checksum covered))) := by
      rw [encode, Trailer.append, trailed.trimmed]
      simp [covered]
    apply read_of_unwrap writable trimmed
    rw [encode, Trailer.append, trailed.unwrap_eq, if_pos (verifies_hexWord _),
      takeSequence_append long]
  · intro some digit inner
    obtain ⟨front, last⟩ := writable.exists_concat some
    have trimmed : trimTerminators (encode text .none terminator) = bytesOf text ++ [] := by
      rw [encode, Trailer.append, trimTerminators_append (by simpa using ends), last,
        trimTerminators_concat inner, List.append_nil]
    apply read_of_unwrap writable trimmed
    rw [trimmed, List.append_nil, last, unwrap, hasChecksum_concat digit]
    rfl

/-- A login whose user looks like a trailer, with a field twice and one that is empty. -/
theorem parts_read_back_lookalike :
    let tagged : List TaggedField := [⟨"CN", "uAY1AZFFFF"⟩, ⟨"CO", ""⟩, ⟨"CN", "é"⟩]
    let text := body '|' "93" ["0", "0"] tagged
    let covered := bytesOf text ++ sequenceTag ++ [sequenceDigit 13] ++ checksumTag
    read (encode text (.sequenced 13) lineFeed) 124 =
      .ok (ofParts "93" ["0", "0"] tagged (some ⟨3, by decide⟩) (some (Frame.checksum covered))) ∧
    read (encode text .none carriageReturn) 124 =
      .ok (ofParts "93" ["0", "0"] tagged none none) := by
  intro tagged text covered
  have writable : Writable '|' "93" ["0", "0"] tagged :=
    ⟨by decide, by decide, by simp, by decide, by decide, by decide⟩
  have feed : isLineEnd lineFeed = true := rfl
  have carriage : isLineEnd carriageReturn = true := rfl
  obtain ⟨-, sequenced, -⟩ := parts_read_back writable 13 feed
  obtain ⟨-, -, bare⟩ := parts_read_back writable 13 carriage
  exact ⟨sequenced, bare (by simp [tagged]) (by decide) (by decide)⟩

end Message

end SelfCheck
