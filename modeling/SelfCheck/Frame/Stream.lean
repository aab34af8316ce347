import SelfCheck.Frame.Split

/-! Cutting a byte stream that comes in chunks.

After each chunk every complete frame is taken off the buffer; what is left waits for more bytes.
-/

set_option autoImplicit false

namespace SelfCheck.Frame

/-- What has been taken off a buffer. -/
structure Taken where
  frames : List (List UInt8)
  /-- The length of a piece that is too large for a frame; nothing is taken behind it. -/
  oversize : Option Nat
  rest : List UInt8
  deriving DecidableEq, Repr

/-- Take every frame off the front of a buffer. -/
def takeAll (delimiter : UInt8) (limit : Nat) (buffer : List UInt8) : Taken :=
  match _taken : split delimiter limit buffer with
  | .incomplete rest => ⟨[], none, rest⟩
  | .tooLarge length rest => ⟨[], some length, rest⟩
  | .frame bytes rest =>
    let later := takeAll delimiter limit rest
    { later with frames := bytes :: later.frames }
termination_by buffer.length
decreasing_by exact length_rest_lt _taken

theorem takeAll_of_frame {delimiter : UInt8} {limit : Nat} {buffer bytes rest : List UInt8}
    (taken : split delimiter limit buffer = .frame bytes rest) :
    takeAll delimiter limit buffer =
      { takeAll delimiter limit rest with
        frames := bytes :: (takeAll delimiter limit rest).frames } := by
  rw [takeAll]
  split <;> simp_all

theorem takeAll_of_incomplete {delimiter : UInt8} {limit : Nat} {buffer rest : List UInt8}
    (taken : split delimiter limit buffer = .incomplete rest) :
    takeAll delimiter limit buffer = ⟨[], none, rest⟩ := by
  rw [takeAll]
  split <;> simp_all

theorem takeAll_of_tooLarge {delimiter : UInt8} {limit length : Nat} {buffer rest : List UInt8}
    (taken : split delimiter limit buffer = .tooLarge length rest) :
    takeAll delimiter limit buffer = ⟨[], some length, rest⟩ := by
  rw [takeAll]
  split <;> simp_all

/-- A piece that is too large may take with it what stands in the buffer. -/
def Taken.settled (clear : Bool) (taken : Taken) : Taken :=
  if clear && taken.oversize.isSome then { taken with rest := [] } else taken

/-- What each of some chunks brings, when `buffer` waits in front of them. -/
def feed (delimiter : UInt8) (limit : Nat) (clear : Bool) (buffer : List UInt8) :
    List (List UInt8) → List Taken
  | [] => []
  | chunk :: chunks =>
    let taken := (takeAll delimiter limit (buffer ++ chunk)).settled clear
    taken :: feed delimiter limit clear taken.rest chunks

end SelfCheck.Frame
