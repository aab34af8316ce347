/-! UTF-8: the bytes of a text, and the text of any bytes.

Decoding never fails: each longest run of bytes that starts a character and cannot be completed
stands for one replacement character.
-/

set_option autoImplicit false

namespace SelfCheck.Text

/-- The bytes of a text. -/
def bytesOf (s : String) : List UInt8 := s.toList.flatMap String.utf8EncodeChar

/-- What the first byte of a character says about the bytes that follow it; the bounds are those
of the second byte. -/
inductive Lead where
  | ascii
  | pair
  | triple (low high : UInt8)
  | quadruple (low high : UInt8)
  | none
  deriving DecidableEq, Repr

def lead (b : UInt8) : Lead :=
  if b < 0x80 then .ascii
  else if b < 0xC2 then .none
  else if b < 0xE0 then .pair
  else if b = 0xE0 then .triple 0xA0 0xBF
  else if b = 0xED then .triple 0x80 0x9F
  else if b < 0xF0 then .triple 0x80 0xBF
  else if b = 0xF0 then .quadruple 0x90 0xBF
  else if b < 0xF4 then .quadruple 0x80 0xBF
  else if b = 0xF4 then .quadruple 0x80 0x8F
  else .none

def isTail (b : UInt8) : Bool := 0x80 ≤ b && b ≤ 0xBF

def replacement : Char := Char.ofNat 0xFFFD

/-- Payload bits of a following byte. -/
def tailBits (b : UInt8) : Nat := b.toNat % 64

def decodeChars : List UInt8 → List Char
  | [] => []
  | b :: r =>
    match lead b with
    | .none => replacement :: decodeChars r
    | .ascii => Char.ofNat b.toNat :: decodeChars r
    | .pair =>
      match r with
      | [] => [replacement]
      | b₁ :: r₁ =>
        if isTail b₁ then Char.ofNat (b.toNat % 32 * 64 + tailBits b₁) :: decodeChars r₁
        else replacement :: decodeChars (b₁ :: r₁)
    | .triple low high =>
      match r with
      | [] => [replacement]
      | b₁ :: r₁ =>
        if low ≤ b₁ && b₁ ≤ high then
          match r₁ with
          | [] => [replacement]
          | b₂ :: r₂ =>
            if isTail b₂ then
              Char.ofNat ((b.toNat % 16 * 64 + tailBits b₁) * 64 + tailBits b₂) :: decodeChars r₂
            else replacement :: decodeChars (b₂ :: r₂)
        else replacement :: decodeChars (b₁ :: r₁)
    | .quadruple low high =>
      match r with
      | [] => [replacement]
      | b₁ :: r₁ =>
        if low ≤ b₁ && b₁ ≤ high then
          match r₁ with
          | [] => [replacement]
          | b₂ :: r₂ =>
            if isTail b₂ then
              match r₂ with
              | [] => [replacement]
              | b₃ :: r₃ =>
                if isTail b₃ then
                  Char.ofNat (((b.toNat % 8 * 64 + tailBits b₁) * 64 + tailBits b₂) * 64 + tailBits b₃)
                    :: decodeChars r₃
                else replacement :: decodeChars (b₃ :: r₃)
            else replacement :: decodeChars (b₂ :: r₂)
        else replacement :: decodeChars (b₁ :: r₁)

/-- The text of any bytes. -/
def decode (bytes : List UInt8) : String := String.ofList (decodeChars bytes)

/-- The text of bytes that are UTF-8. -/
def decode? (bytes : List UInt8) : Option String :=
  let s := decode bytes
  if bytesOf s = bytes then some s else none

end SelfCheck.Text
