import SelfCheck.Message

/-! Sequence digits: which requests are new, which are repeated, and which are out of order. -/

set_option autoImplicit false

namespace SelfCheck

/-- What a session remembers of the last request it accepted. -/
structure Sequence where
  /-- The digit the next request has to have; none before the first one. -/
  expected : Option (Fin 10) := none
  /-- The digit and checksum of the last request. -/
  previous : Option (Fin 10 × UInt16) := none
  deriving DecidableEq, Repr

inductive Verdict where
  | fresh
  | repeated
  | invalid
  deriving DecidableEq, Repr

namespace Sequence

/-- The verdict on a request. Without error detection every request is new; with it a request
needs a digit and a checksum. -/
def classify (sequence : Sequence) (message : Message) (errorDetection : Bool) : Verdict :=
  if !errorDetection then .fresh
  else match message.sequence, message.checksum with
    | some digit, some checksum =>
      if sequence.previous = some (digit, checksum) then .repeated
      else if sequence.expected.all (· = digit) then .fresh
      else .invalid
    | _, _ => .invalid

/-- A request is accepted; one without digit or checksum leaves no trace. -/
def advance (sequence : Sequence) (message : Message) : Sequence :=
  match message.sequence, message.checksum with
  | some digit, some checksum => { expected := some (digit + 1), previous := some (digit, checksum) }
  | _, _ => sequence

theorem classify_advance (sequence : Sequence) {message : Message} {digit : Fin 10}
    {checksum : UInt16} (numbered : message.sequence = some digit)
    (summed : message.checksum = some checksum) :
    (sequence.advance message).classify message true = .repeated := by
  simp [advance, classify, numbered, summed]

end Sequence

end SelfCheck
