import SelfCheck.Proofs.Message.Stages

/-! The reader by positions.

Every part of a frame is cut out between two positions here. A cut that does not lie within the
bytes, or a position counted back from one that is too small, leaves no result at all. It never comes
to that: there is a result for every frame, and it is the reader's.
-/

set_option autoImplicit false

namespace SelfCheck.Message

open SelfCheck.Frame

/-- The bytes from one position to another, when these are in order and within the bytes. -/
def cut? (bytes : List UInt8) (start stop : Nat) : Option (List UInt8) :=
  if start ≤ stop ∧ stop ≤ bytes.length then some ((bytes.drop start).take (stop - start))
  else none

/-- A number less another, when it is large enough. -/
def less? (number count : Nat) : Option Nat :=
  if count ≤ number then some (number - count) else none

theorem cut?_of_le {bytes : List UInt8} {start stop : Nat} (ordered : start ≤ stop)
    (inside : stop ≤ bytes.length) :
    cut? bytes start stop = some ((bytes.drop start).take (stop - start)) :=
  if_pos ⟨ordered, inside⟩

theorem cut?_front {bytes : List UInt8} {stop : Nat} (inside : stop ≤ bytes.length) :
    cut? bytes 0 stop = some (bytes.take stop) :=
  cut?_of_le (Nat.zero_le stop) inside

theorem cut?_back {bytes : List UInt8} {start : Nat} (inside : start ≤ bytes.length) :
    cut? bytes start bytes.length = some (bytes.drop start) := by
  rw [cut?_of_le inside (Nat.le_refl _), ← List.length_drop, List.take_length]

theorem length_of_cut? {bytes part : List UInt8} {start stop : Nat}
    (found : cut? bytes start stop = some part) :
    start ≤ stop ∧ stop ≤ bytes.length ∧ part.length = stop - start := by
  unfold cut? at found
  split at found
  · next within =>
    cases found
    refine ⟨within.1, within.2, ?_⟩
    rw [List.length_take, List.length_drop]
    omega
  · cases found

theorem less?_of_le {number count : Nat} (enough : count ≤ number) :
    less? number count = some (number - count) :=
  if_pos enough

/-! The parts of the reader. -/

def hasChecksumAt? (raw : List UInt8) : Option Bool :=
  if raw.length < 8 then some false
  else do
    let start ← less? raw.length 6
    let middle ← less? raw.length 4
    let tag ← cut? raw start middle
    if tag == checksumTag then
      let digits ← cut? raw middle raw.length
      return digits.all isHexByte
    else return false

def takeSequenceAt? (checksum : UInt16) (body : List UInt8) :
    Option (Except FrameError Unwrapped) :=
  if body.length < 5 then some (.ok ⟨body, none, some checksum⟩)
  else do
    let start ← less? body.length 3
    let last ← less? body.length 1
    let tag ← cut? body start last
    if tag == sequenceTag then
      let digit ← body[last]?
      if isDigitByte digit then
        let value ← less? digit.toNat 48
        let front ← cut? body 0 start
        return .ok ⟨front, some ⟨value % 10, Nat.mod_lt _ (by decide)⟩, some checksum⟩
      else return .error (.badSequence (Char.ofNat digit.toNat))
    else return .ok ⟨body, none, some checksum⟩

def unwrapAt? (raw : List UInt8) : Option (Except FrameError Unwrapped) := do
  if ← hasChecksumAt? raw then
    let middle ← less? raw.length 4
    let covered ← cut? raw 0 middle
    let digits ← cut? raw middle raw.length
    if verifies covered (Text.decode digits) then
      let start ← less? raw.length 6
      let body ← cut? raw 0 start
      takeSequenceAt? (Frame.checksum covered) body
    else return .error (.badChecksum (Frame.checksum covered) (Text.decode digits))
  else return .ok ⟨raw, none, none⟩

def readFixedAt? :
    List Slot → List UInt8 → Option (Except FrameError (List FixedField × List UInt8))
  | [], rest => some (.ok ([], rest))
  | slot :: slots, rest =>
    if rest.length < slot.width then
      some (.error (.truncated slot.name slot.width rest.length))
    else do
      let value ← cut? rest 0 slot.width
      let behind ← cut? rest slot.width rest.length
      let read ← readFixedAt? slots behind
      return read.map fun (fields, left) => (⟨slot.name, Text.decode value⟩ :: fields, left)

def readTaggedAt? (delimiter : UInt8) (bytes : List UInt8) :
    Option (Except FrameError (List TaggedField)) :=
  if bytes.isEmpty then some (.ok [])
  else if bytes.length < 2 then some (.error (.unterminated (Text.decode bytes)))
  else do
    let tag ← cut? bytes 0 2
    let rest ← cut? bytes 2 bytes.length
    match rest.findIdx? (· == delimiter) with
    | none => return .error (.unterminated (Text.decode tag))
    | some place =>
      let value ← cut? bytes 2 (2 + place)
      match _found : cut? bytes (2 + place + 1) bytes.length with
      | none => none
      | some more =>
        let read ← readTaggedAt? delimiter more
        return read.map (⟨Text.decode tag, Text.decode value⟩ :: ·)
termination_by bytes.length
decreasing_by
  have within := length_of_cut? _found
  omega

/-- Read one frame, each part of it by its positions. -/
def readAt? (raw : List UInt8) (fieldDelimiter : UInt8) : Option (Except FrameError Message) :=
  let raw := trimTerminators raw
  if raw.length < 2 then some (.error (.truncated "command_code" 2 raw.length))
  else do
    match ← unwrapAt? raw with
    | .error fault => return .error fault
    | .ok unwrapped =>
      let code := Text.decode (← cut? raw 0 2)
      let command := Command.ofCode? code
      let behind ← cut? unwrapped.body 2 unwrapped.body.length
      match ← readFixedAt? ((command.map Command.layout).getD []) behind with
      | .error fault => return .error fault
      | .ok (fixed, rest) =>
        let tagged ← readTaggedAt? fieldDelimiter rest
        return tagged.map fun tagged =>
          { code, command, fixed, tagged, sequence := unwrapped.sequence
            checksum := unwrapped.checksum }

/-! Each part has a result. -/

theorem hasChecksumAt?_eq (raw : List UInt8) : hasChecksumAt? raw = some (hasChecksum raw) := by
  unfold hasChecksumAt? hasChecksum
  by_cases long : 8 ≤ raw.length
  · have width : raw.length - 4 - (raw.length - 6) = 2 := by omega
    rw [if_neg (by omega), less?_of_le (by omega), less?_of_le (by omega)]
    simp only [Option.bind_eq_bind, Option.bind_some,
      cut?_of_le (show raw.length - 6 ≤ raw.length - 4 by omega) (Nat.sub_le ..), width,
      cut?_back (Nat.sub_le ..), decide_eq_true long, Bool.true_and]
    split
    · next tag => simp [tag]
    · next tag => simp [tag]
  · rw [if_pos (by omega), decide_eq_false long]
    rfl

/-- The last three of five bytes or more. -/
theorem exists_last_three {body : List UInt8} (long : 5 ≤ body.length) :
    ∃ front a y digit, body = front ++ [a, y, digit] ∧ 2 ≤ front.length := by
  have three : (body.drop (body.length - 3)).length = 3 := by
    rw [List.length_drop]
    omega
  have whole := List.take_append_drop (body.length - 3) body
  generalize body.drop (body.length - 3) = last at three whole
  rcases last with _ | ⟨a, _ | ⟨y, _ | ⟨digit, rest⟩⟩⟩
  · cases three
  · cases three
  · cases three
  · have done : rest = [] := by simpa using three
    refine ⟨body.take (body.length - 3), a, y, digit, ?_, ?_⟩
    · rw [← done, whole]
    · rw [List.length_take]
      omega

theorem takeSequenceAt?_eq (checksum : UInt16) (body : List UInt8) :
    takeSequenceAt? checksum body = some (takeSequence checksum body) := by
  unfold takeSequenceAt? takeSequence
  dsimp only
  by_cases long : 5 ≤ body.length
  · obtain ⟨front, a, y, digit, rfl, two⟩ := exists_last_three long
    have start : (front ++ [a, y, digit]).length - 3 = front.length := by simp
    have last : (front ++ [a, y, digit]).length - 1 = front.length + 2 := by simp
    have tag : cut? (front ++ [a, y, digit]) front.length (front.length + 2) = some [a, y] := by
      rw [cut?_of_le (by omega) (by simp), List.drop_left, Nat.add_sub_cancel_left]
      rfl
    have final : (front ++ [a, y, digit])[front.length + 2]? = some digit := by simp
    rw [if_neg (by omega), less?_of_le (by omega), less?_of_le (by omega), start, last,
      List.drop_left, List.take_left]
    simp only [Option.bind_eq_bind, Option.bind_some, tag, final, two, decide_true, Bool.true_and]
    split
    · split
      · next digits =>
        have value : 48 ≤ digit.toNat := by
          simp only [isDigitByte, Bool.and_eq_true, decide_eq_true_eq] at digits
          exact UInt8.le_iff_toNat_le.mp digits.1
        rw [less?_of_le value, cut?_front (by simp), List.take_left]
        rfl
      · rfl
    · rfl
  · rw [if_pos (by omega)]
    split
    · rw [if_neg (by simp; omega)]
    · rfl

theorem unwrapAt?_eq (raw : List UInt8) : unwrapAt? raw = some (unwrap raw) := by
  unfold unwrapAt? unwrap
  simp only [hasChecksumAt?_eq, Option.bind_eq_bind, Option.bind_some]
  split
  · next tagged =>
    have long : 8 ≤ raw.length := by
      simp only [hasChecksum, Bool.and_eq_true, decide_eq_true_eq] at tagged
      exact tagged.1.1
    rw [less?_of_le (by omega), less?_of_le (by omega)]
    simp only [Option.bind_some, cut?_front (Nat.sub_le ..), cut?_back (Nat.sub_le ..),
      takeSequenceAt?_eq]
    split <;> rfl
  · rfl

theorem readFixedAt?_eq (slots : List Slot) (rest : List UInt8) :
    readFixedAt? slots rest = some (readFixed slots rest) := by
  induction slots generalizing rest with
  | nil => rfl
  | cons slot slots ih =>
    unfold readFixedAt? readFixed
    split
    · rfl
    · rw [cut?_front (by omega), cut?_back (by omega)]
      simp only [Option.bind_eq_bind, Option.bind_some, ih]
      cases readFixed slots (rest.drop slot.width) <;> rfl

theorem readTaggedAt?_eq (delimiter : UInt8) (bytes : List UInt8) :
    readTaggedAt? delimiter bytes = some (readTagged delimiter bytes) := by
  fun_induction readTagged delimiter bytes with
  | case1 => rw [readTaggedAt?]; rfl
  | case2 b => rw [readTaggedAt?]; rfl
  | case3 a b rest ends =>
    have absent := not_mem_of_dropWhile ends
    have none : rest.findIdx? (· == delimiter) = none := by
      rw [List.findIdx?_eq_none_iff]
      intro b member
      exact beq_false_of_ne fun same => absent (same ▸ member)
    rw [readTaggedAt?, if_neg (by simp), if_neg (by simp), cut?_front (by simp), cut?_back (by simp)]
    simp only [Option.bind_eq_bind, Option.bind_some, List.drop_succ_cons, List.drop_zero, none]
    rfl
  | case4 a b rest mark more found ih =>
    obtain ⟨value, rfl, absent⟩ := exists_of_dropWhile found
    have inside : ∀ b ∈ value, (b == delimiter) = false := fun b member =>
      beq_false_of_ne fun same => absent (same ▸ member)
    have place : (value ++ delimiter :: more).findIdx? (· == delimiter) = some value.length := by
      rw [List.findIdx?_append, List.findIdx?_eq_none_iff.mpr inside, List.findIdx?_cons,
        if_pos (beq_self_eq_true delimiter)]
      simp
    rw [readTaggedAt?, if_neg (by simp), if_neg (by simp), cut?_front (by simp), cut?_back (by simp)]
    simp only [Option.bind_eq_bind, Option.bind_some, List.drop_succ_cons, List.drop_zero, place]
    have cut : cut? (a :: b :: (value ++ delimiter :: more)) 2 (2 + value.length) = some value := by
      rw [cut?_of_le (by omega) (by simp; omega), Nat.add_sub_cancel_left, List.drop_succ_cons,
        List.drop_succ_cons, List.drop_zero, List.take_left]
    have behind : cut? (a :: b :: (value ++ delimiter :: more)) (2 + value.length + 1)
        (a :: b :: (value ++ delimiter :: more)).length = some more := by
      rw [cut?_back (by simp; omega), Nat.add_right_comm, Nat.add_comm 3, List.drop_succ_cons,
        List.drop_succ_cons, List.drop_length_add_append]
      rfl
    rw [(takeWhile_append_cons absent more).1, cut]
    simp only [Option.bind_some]
    split
    · next missing =>
      rw [behind] at missing
      cases missing
    · next found =>
      rw [behind] at found
      cases found
      rw [ih]
      rfl

theorem two_le_of_takeSequence {checksum : UInt16} {body : List UInt8} {unwrapped : Unwrapped}
    (long : 2 ≤ body.length) (taken : takeSequence checksum body = .ok unwrapped) :
    2 ≤ unwrapped.body.length := by
  obtain rfl | ⟨front, b, -, enough, -, rfl⟩ := takeSequence_eq_ok taken
  · exact long
  · exact enough

/-- Whatever trailer is taken off, the code is left. -/
theorem two_le_of_unwrap {raw : List UInt8} {unwrapped : Unwrapped} (long : 2 ≤ raw.length)
    (opened : unwrap raw = .ok unwrapped) : 2 ≤ unwrapped.body.length := by
  unfold unwrap at opened
  split at opened
  · next tagged =>
    have enough : 8 ≤ raw.length := by
      simp only [hasChecksum, Bool.and_eq_true, decide_eq_true_eq] at tagged
      exact tagged.1.1
    dsimp only at opened
    split at opened
    · refine two_le_of_takeSequence ?_ opened
      rw [List.length_take]
      omega
    · cases opened
  · cases opened
    exact long

/-- Every frame has a result, which is that of the reader. -/
theorem readAt?_eq (raw : List UInt8) (fieldDelimiter : UInt8) :
    readAt? raw fieldDelimiter = some (read raw fieldDelimiter) := by
  unfold readAt? read
  dsimp only
  split
  · rfl
  · next long =>
    simp only [Option.bind_eq_bind, Option.bind_some, unwrapAt?_eq]
    cases opened : unwrap (trimTerminators raw) with
    | error fault => rfl
    | ok unwrapped =>
      have two := two_le_of_unwrap (by omega) opened
      dsimp only [bind, Except.bind]
      simp only [cut?_front (show 2 ≤ (trimTerminators raw).length by omega), cut?_back two,
        Option.bind_some, readFixedAt?_eq, readTaggedAt?_eq]
      generalize Text.decode ((trimTerminators raw).take 2) = code
      cases readFixed (((Command.ofCode? code).map Command.layout).getD [])
        (unwrapped.body.drop 2) with
      | error fault => rfl
      | ok positional =>
        dsimp only
        cases readTagged fieldDelimiter positional.2 <;> rfl

end SelfCheck.Message
