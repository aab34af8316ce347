import SelfCheck.Message.Reader
import SelfCheck.Proofs.Frame.Split

/-! The stages of reading: what each of them has made of a frame that could be read. -/

set_option autoImplicit false

namespace SelfCheck.Message

open SelfCheck.Frame
open Text (decode)

variable {delimiter : UInt8} {frame bytes rest : List UInt8} {message : Message}

/-- How a message came out of a frame: `unwrapped` is what was left of it without its trailer, and
`rest` what stood behind the positional fields. -/
structure Stages (delimiter : UInt8) (frame : List UInt8) (message : Message)
    (unwrapped : Unwrapped) (rest : List UInt8) : Prop where
  long : 2 ≤ (trimTerminators frame).length
  opened : unwrap (trimTerminators frame) = .ok unwrapped
  code : message.code = decode ((trimTerminators frame).take 2)
  command : message.command = Command.ofCode? message.code
  fixed : readFixed ((message.command.map Command.layout).getD []) (unwrapped.body.drop 2) =
    .ok (message.fixed, rest)
  tagged : readTagged delimiter rest = .ok message.tagged
  sequence : message.sequence = unwrapped.sequence
  checksum : message.checksum = unwrapped.checksum

theorem exists_stages (reads : read frame delimiter = .ok message) :
    ∃ unwrapped rest, Stages delimiter frame message unwrapped rest := by
  unfold read at reads
  dsimp only at reads
  split at reads
  · cases reads
  · next long =>
    cases opened : unwrap (trimTerminators frame) with
    | error fault =>
      rw [opened] at reads
      cases reads
    | ok unwrapped =>
      rw [opened] at reads
      simp only [bind, Except.bind] at reads
      split at reads
      · cases reads
      · next positional fixed =>
        split at reads
        · cases reads
        · next fields tagged =>
          cases reads
          exact ⟨unwrapped, positional.2, Nat.le_of_not_lt long, opened, rfl, rfl, fixed, tagged,
            rfl, rfl⟩

/-- A trailer that cannot be taken off is the fault of the frame. -/
theorem read_of_refused {fault : FrameError} (long : 2 ≤ (trimTerminators frame).length)
    (refused : unwrap (trimTerminators frame) = .error fault) :
    read frame delimiter = .error fault := by
  unfold read
  dsimp only
  rw [if_neg (Nat.not_lt.mpr long), refused]
  rfl

/-! Taking a sequence digit off. -/

/-- Bytes that end in the sequence tag and one more byte, behind the code of a message. -/
def EndsNumbered (bytes : List UInt8) : Prop :=
  ∃ front b, bytes = front ++ sequenceTag ++ [b] ∧ 2 ≤ front.length

/-- The byte behind the sequence tag is taken for the digit, and it has to be one. -/
theorem takeSequence_tagged {front : List UInt8} (long : 2 ≤ front.length) (b : UInt8)
    (checksum : UInt16) :
    takeSequence checksum (front ++ sequenceTag ++ [b]) =
      if isDigitByte b then
        .ok ⟨front, some ⟨(b.toNat - 48) % 10, Nat.mod_lt _ (by decide)⟩, some checksum⟩
      else .error (.badSequence (Char.ofNat b.toNat)) := by
  have start : (front ++ sequenceTag ++ [b]).length - 3 = front.length := by
    simp [sequenceTag]
  have parts : front ++ sequenceTag ++ [b] = front ++ [65, 89, b] := by
    simp [sequenceTag]
  unfold takeSequence
  dsimp only
  rw [start, parts, List.drop_left, List.take_left]
  simp [long, sequenceTag]

/-- Without the sequence tag in its place a body stays as it is. -/
theorem takeSequence_plain {body : List UInt8} (plain : ¬EndsNumbered body) (checksum : UInt16) :
    takeSequence checksum body = .ok ⟨body, none, some checksum⟩ := by
  unfold takeSequence
  dsimp only
  split
  · next a y b last =>
    split
    · next marked =>
      rw [Bool.and_eq_true, decide_eq_true_eq, beq_iff_eq] at marked
      refine absurd ⟨body.take (body.length - 3), b, ?_, ?_⟩ plain
      · rw [← marked.2, List.append_assoc, List.cons_append, List.cons_append, List.nil_append,
          ← last, List.take_append_drop]
      · rw [List.length_take]
        omega
    · rfl
  · rfl

theorem takeSequence_eq_ok {checksum : UInt16} {body : List UInt8} {unwrapped : Unwrapped}
    (taken : takeSequence checksum body = .ok unwrapped) :
    unwrapped = ⟨body, none, some checksum⟩ ∨ ∃ front b,
      body = front ++ sequenceTag ++ [b] ∧ 2 ≤ front.length ∧ isDigitByte b = true ∧
        unwrapped = ⟨front, some ⟨(b.toNat - 48) % 10, Nat.mod_lt _ (by decide)⟩,
          some checksum⟩ := by
  by_cases numbered : EndsNumbered body
  · obtain ⟨front, b, rfl, long⟩ := numbered
    rw [takeSequence_tagged long] at taken
    split at taken
    · next digit =>
      cases taken
      exact .inr ⟨front, b, rfl, long, digit, rfl⟩
    · cases taken
  · rw [takeSequence_plain numbered] at taken
    cases taken
    exact .inl rfl

/-- A positional field is as wide as its slot. -/
theorem readFixed_cons_eq_ok {slot : Slot} {slots : List Slot} {fields : List FixedField}
    (reads : readFixed (slot :: slots) bytes = .ok (fields, rest)) :
    slot.width ≤ bytes.length ∧ ∃ others,
      fields = ⟨slot.name, decode (bytes.take slot.width)⟩ :: others ∧
        readFixed slots (bytes.drop slot.width) = .ok (others, rest) := by
  unfold readFixed at reads
  split at reads
  · cases reads
  · next enough =>
    cases inner : readFixed slots (bytes.drop slot.width) with
    | error fault =>
      rw [inner] at reads
      cases reads
    | ok positional =>
      rw [inner] at reads
      cases reads
      exact ⟨Nat.le_of_not_lt enough, positional.1, rfl, rfl⟩

/-- A tagged field ends at the first delimiter behind its tag. -/
theorem readTagged_eq_ok {fields : List TaggedField}
    (reads : readTagged delimiter bytes = .ok fields) :
    (bytes = [] ∧ fields = []) ∨ ∃ a b value more others,
      bytes = a :: b :: (value ++ delimiter :: more) ∧ delimiter ∉ value ∧
        fields = ⟨decode [a, b], decode value⟩ :: others ∧
          readTagged delimiter more = .ok others := by
  rcases bytes with _ | ⟨a, _ | ⟨b, tail⟩⟩
  · rw [readTagged] at reads
    cases reads
    exact .inl ⟨rfl, rfl⟩
  · rw [readTagged] at reads
    cases reads
  · rw [readTagged] at reads
    split at reads
    · cases reads
    · next mark more found =>
      obtain ⟨value, rfl, absent⟩ := exists_of_dropWhile found
      cases inner : readTagged delimiter more with
      | error fault =>
        rw [inner] at reads
        cases reads
      | ok others =>
        rw [inner, (takeWhile_append_cons absent more).1] at reads
        cases reads
        exact .inr ⟨a, b, value, more, others, rfl, absent, rfl, inner⟩

end SelfCheck.Message
