/-! Cutting a byte stream into frames.

A frame ends before a delimiter byte. Line feeds and delimiters in front of a frame belong to
nothing and are dropped, so a frame is never empty.
-/

set_option autoImplicit false

namespace SelfCheck.Frame

def lineFeed : UInt8 := 10

def carriageReturn : UInt8 := 13

/-- What the front of a buffer holds; `rest` is the buffer afterwards. -/
inductive Split where
  | frame (bytes rest : List UInt8)
  | incomplete (rest : List UInt8)
  | tooLarge (length : Nat) (rest : List UInt8)
  deriving DecidableEq, Repr

def isFiller (delimiter b : UInt8) : Bool := b == lineFeed || b == delimiter

/-- A buffer without the bytes in front that belong to no frame. -/
def dropFiller (delimiter : UInt8) (buffer : List UInt8) : List UInt8 :=
  buffer.dropWhile (isFiller delimiter)

/-- Take the frame at the front of a buffer, if it is complete and has at most `limit` bytes. -/
def split (delimiter : UInt8) (limit : Nat) (buffer : List UInt8) : Split :=
  let start := dropFiller delimiter buffer
  let piece := start.takeWhile (· != delimiter)
  match start.dropWhile (· != delimiter) with
  | [] => if limit < piece.length then .tooLarge piece.length start else .incomplete start
  | _ :: rest => if limit < piece.length then .tooLarge piece.length start else .frame piece rest

theorem length_dropFiller_le (delimiter : UInt8) (buffer : List UInt8) :
    (dropFiller delimiter buffer).length ≤ buffer.length :=
  (List.dropWhile_suffix _).length_le

/-- Taking a frame leaves a shorter buffer. -/
theorem length_rest_lt {delimiter : UInt8} {limit : Nat} {buffer bytes rest : List UInt8}
    (taken : split delimiter limit buffer = .frame bytes rest) : rest.length < buffer.length := by
  simp only [split] at taken
  split at taken
  · split at taken <;> simp at taken
  · next b more eq =>
    split at taken
    · simp at taken
    · simp only [Split.frame.injEq] at taken
      obtain ⟨-, rfl⟩ := taken
      have whole := length_dropFiller_le delimiter buffer
      have part := (List.dropWhile_suffix (l := dropFiller delimiter buffer) (· != delimiter)).length_le
      rw [eq, List.length_cons] at part
      omega

end SelfCheck.Frame
