import SelfCheck.Proofs.Message.RoundTrip

/-! A message with a checksum and without a sequence digit.

The digit is looked for in its place, right in front of the checksum. In a frame without one the
message itself stands there, and its last bytes can be taken for a digit and its tag. Then the message
is not read back; every other message is.
-/

set_option autoImplicit false

namespace SelfCheck.Message

open SelfCheck.Frame
open Text (bytesOf bytesOf_append)

variable {delimiter : Char} {code : String} {fixed : List String} {tagged : List TaggedField}

theorem Writable.long (writable : Writable delimiter code fixed tagged) :
    2 ≤ (bytesOf (body delimiter code fixed tagged)).length := by
  rw [writable.body_eq, List.length_append, writable.two]
  omega

/-- All that is left to find out about such a frame is whether a digit is taken off its message. -/
theorem Writable.unwrap_eq (writable : Writable delimiter code fixed tagged) {terminator : UInt8}
    (ends : isLineEnd terminator = true) :
    let text := body delimiter code fixed tagged
    let summed := Frame.checksum (bytesOf text ++ checksumTag)
    let trimmed := trimTerminators (encode text .checksum terminator)
    trimmed = bytesOf text ++ (checksumTag ++ bytesOf (hexWord summed)) ∧
      unwrap trimmed = takeSequence summed (bytesOf text) := by
  intro text summed trimmed
  have trailed := trailed_sealed writable.long ends
  constructor
  · exact trailed.trimmed.trans (List.append_assoc ..)
  · exact trailed.unwrap_eq.trans (if_pos (verifies_hexWord _))

theorem charOfByte_mark (ascii : delimiter.toNat < 128) :
    Char.ofNat (mark delimiter).toNat = delimiter := by
  rw [mark, UInt8.toNat_ofNat_of_lt' (Nat.lt_trans ascii (by decide)), Char.ofNat_toNat]

/-- With a tagged field at the end, the field delimiter stands where the digit would. So it depends
on the end of this field alone, its tag included. -/
theorem Writable.endsNumbered_iff {fields : List TaggedField} {field : TaggedField}
    (writable : Writable delimiter code fixed (fields ++ [field])) :
    EndsNumbered (bytesOf (body delimiter code fixed (fields ++ [field]))) ↔
      sequenceTag <:+ bytesOf (field.tag ++ field.value) := by
  have parts : bytesOf (body delimiter code fixed (fields ++ [field])) =
      (bytesOf code ++ (fixed.flatMap bytesOf ++ fields.flatMap (taggedBytes delimiter))) ++
        bytesOf (field.tag ++ field.value) ++ [mark delimiter] := by
    rw [writable.body_eq]
    simp [taggedBytes, bytesOf_append]
  rw [parts]
  constructor
  · rintro ⟨front, b, same, -⟩
    obtain ⟨whole, -⟩ := List.append_inj' same rfl
    have two : (bytesOf field.tag).length = 2 := writable.tags field (by simp)
    have enough : sequenceTag.length ≤ (bytesOf (field.tag ++ field.value)).length := by
      rw [bytesOf_append, List.length_append, two]
      exact Nat.le_add_right ..
    exact List.suffix_of_suffix_length_le ⟨front, whole.symm⟩ (List.suffix_append ..) enough
  · rintro ⟨front, whole⟩
    refine ⟨bytesOf code ++ (fixed.flatMap bytesOf ++ fields.flatMap (taggedBytes delimiter)) ++ front,
      mark delimiter, ?_, ?_⟩
    · rw [← whole, ← List.append_assoc]
    · rw [List.append_assoc, List.length_append, writable.two]
      exact Nat.le_add_right ..

/-- A message with a checksum and no sequence digit is read back from its frame, with all its parts in
their order and no digit, just when it does not end, behind its code, in the sequence tag and one more
byte. With tagged fields this means that the last of them does not end in the sequence tag. If it
does, the frame is refused for its digit, which is the field delimiter, unless that is a digit. -/
theorem unnumbered_read_back (writable : Writable delimiter code fixed tagged) {terminator : UInt8}
    (ends : isLineEnd terminator = true) :
    let text := body delimiter code fixed tagged
    let message := ofParts code fixed tagged none
      (some (Frame.checksum (bytesOf text ++ checksumTag)))
    let result := read (encode text .checksum terminator) (mark delimiter)
    message.fixed.map (·.value) = fixed ∧
      (result = .ok message ↔ ¬EndsNumbered (bytesOf text)) ∧
      ∀ fields field, tagged = fields ++ [field] →
        (EndsNumbered (bytesOf text) ↔ sequenceTag <:+ bytesOf (field.tag ++ field.value)) ∧
        (EndsNumbered (bytesOf text) → isDigitByte (mark delimiter) = false →
          result = .error (.badSequence delimiter)) := by
  intro text message result
  obtain ⟨trimmed, opened⟩ := writable.unwrap_eq ends
  refine ⟨values_ofParts writable .., ⟨?_, ?_⟩, ?_⟩
  · rintro reads ⟨front, b, whole, long⟩
    obtain ⟨unwrapped, rest, stages⟩ := exists_stages reads
    have none : unwrapped.sequence = .none := stages.sequence.symm
    have taken := stages.opened
    rw [opened, whole, takeSequence_tagged long] at taken
    split at taken
    · cases taken
      cases none
    · cases taken
  · intro plain
    exact read_of_unwrap writable trimmed (opened.trans (takeSequence_plain plain _))
  · rintro fields field rfl
    refine ⟨writable.endsNumbered_iff, ?_⟩
    rintro ⟨front, b, whole, long⟩ nondigit
    obtain ⟨before, last⟩ := writable.exists_concat (by simp)
    obtain rfl : mark delimiter = b :=
      (List.cons.inj (List.append_inj' (last.symm.trans whole) rfl).2).1
    apply read_of_refused
    · rw [trimmed, List.length_append]
      exact Nat.le_add_right_of_le writable.long
    · rw [opened, whole, takeSequence_tagged long, nondigit, charOfByte_mark writable.delimiter_ascii]
      rfl

/-- A login with the sequence tag inside its fields and at the end of one that is not the last. -/
theorem unnumbered_read_back_lookalike :
    let tagged : List TaggedField := [⟨"CN", "userAY"⟩, ⟨"CO", "AY1"⟩]
    let text := body '|' "93" ["0", "0"] tagged
    read (encode text .checksum carriageReturn) 124 =
      .ok (ofParts "93" ["0", "0"] tagged none
        (some (Frame.checksum (bytesOf text ++ checksumTag)))) := by
  intro tagged text
  have writable : Writable '|' "93" ["0", "0"] tagged :=
    ⟨by decide, by decide, by simp, by decide, by decide, by decide⟩
  have ends : isLineEnd carriageReturn = true := rfl
  obtain ⟨-, whole, each⟩ := unnumbered_read_back writable ends
  refine whole.mpr fun numbered => ?_
  have suffix := (each [⟨"CN", "userAY"⟩] ⟨"CO", "AY1"⟩ rfl).1.mp numbered
  exact absurd suffix (by decide)

/-- Messages that are not read back: a login is refused because its password ends in the sequence
tag, and a date that ends in the tag and a digit loses these three characters. A code that is not
ASCII takes up more than its two bytes. -/
theorem number_taken_from_text :
    let login := body '|' "93" ["0", "0"] [⟨"CO", "myAY"⟩]
    let endSession := body '|' "35" ["20250101    120AY5"] []
    Writable '|' "93" ["0", "0"] [⟨"CO", "myAY"⟩] ∧
      read (encode login .checksum carriageReturn) 124 = .error (.badSequence '|') ∧
      Writable '|' "35" ["20250101    120AY5"] [] ∧
      read (encode endSession .checksum carriageReturn) 124 =
        .error (.truncated "transaction_date" 18 15) ∧
      read (encode (body '|' "éé" [] []) .checksum carriageReturn) 124 =
        .error (.unterminated "é") :=
  ⟨⟨by decide, by decide, by simp, by decide, by decide, by decide⟩,
    error_of_match (by decide +kernel),
    ⟨by decide, by decide, by simp, by decide, by decide, by decide⟩,
    error_of_match (by decide +kernel), error_of_match (by decide +kernel)⟩

end SelfCheck.Message
