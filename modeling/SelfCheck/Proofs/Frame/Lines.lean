import SelfCheck.Frame.Trailer
import SelfCheck.Proofs.Frame.Pieces
import SelfCheck.Proofs.Text.Utf8

/-! Outgoing frames as lines of one stream.

A line ends in a carriage return and has none before it. Whoever cuts a stream of lines into frames
gets them back one by one, so nothing in a line can end it early or begin another one.
-/

set_option autoImplicit false

namespace SelfCheck.Frame

/-- Bytes that make one line. A line of nothing but line feeds would be lost in front of the next
one, so such a line has to be empty. -/
def IsLine (bytes : List UInt8) : Prop :=
  ∃ body, bytes = body ++ [carriageReturn] ∧ carriageReturn ∉ body ∧
    (body = [] ∨ ∃ b ∈ body, b ≠ lineFeed)

/-- What a line says: line feeds in front of it belong to nothing. -/
def contents (line : List UInt8) : List UInt8 := line.dropLast.dropWhile (· == lineFeed)

/-! Cutting. -/

/-- The line in front of a stream is its first frame. -/
theorem split_line {body : List UInt8} (absent : carriageReturn ∉ body)
    (spoken : ∃ b ∈ body, b ≠ lineFeed) {limit : Nat} (short : body.length ≤ limit)
    (rest : List UInt8) :
    split carriageReturn limit (body ++ carriageReturn :: rest) = .frame (dropFeeds body) rest := by
  -- Were nothing left, the delimiter would be skipped as well and the line lost.
  have stays : dropFeeds body ≠ [] := by
    obtain ⟨b, member, differs⟩ := spoken
    intro gone
    have whole := List.takeWhile_append_dropWhile (p := (· == lineFeed)) (l := body)
    rw [← dropFeeds, gone, List.append_nil] at whole
    rw [← whole] at member
    have feed := List.all_eq_true.mp List.all_takeWhile b member
    exact differs (by simpa using feed)
  exact split_piece absent stays (Nat.le_trans (List.dropWhile_suffix _).length_le short) rest

/-- A stream of lines falls into its lines, the empty ones apart. -/
theorem takeAll_lines {lines : List (List UInt8)} (each : ∀ line ∈ lines, IsLine line)
    {limit : Nat} (short : ∀ line ∈ lines, line.length ≤ limit) :
    takeAll carriageReturn limit lines.flatten =
      ⟨(lines.filter (· ≠ [carriageReturn])).map contents, none, []⟩ := by
  induction lines with
  | nil => exact takeAll_of_incomplete (split_nil carriageReturn limit)
  | cons line lines ih =>
    obtain ⟨isLine, others⟩ := List.forall_mem_cons.mp each
    obtain ⟨fits, shorts⟩ := List.forall_mem_cons.mp short
    obtain ⟨body, rfl, absent, spoken⟩ := isLine
    rw [List.flatten_cons, List.append_assoc, List.singleton_append]
    rcases spoken with rfl | spoken
    -- An empty line is a delimiter in front of the next one, which is skipped.
    · rw [takeAll_of_blank absent rfl, ih others shorts]
      rfl
    · have some : body ++ [carriageReturn] ≠ [carriageReturn] := by
        obtain ⟨b, member, -⟩ := spoken
        intro empty
        rw [List.append_left_eq_self.mp empty] at member
        cases member
      have fits : body.length ≤ limit := by
        rw [List.length_append] at fits
        omega
      rw [takeAll_of_frame (split_line absent spoken fits _), ih others shorts,
        List.filter_cons_of_pos (by simpa using some), List.map_cons]
      simp [contents, dropFeeds]

/-! Trailers. -/

theorem hexWord_unbroken (word : UInt16) : Text.Unbroken (hexWord word) := by
  have digits : ∀ n < 16, '\r' ≠ Text.upperHexDigit n := by decide
  have digit (n : Nat) : '\r' ≠ Text.upperHexDigit (n % 16) := digits _ (Nat.mod_lt _ (by decide))
  simp [Text.Unbroken, hexWord, digit]

theorem sealed_absent {bytes : List UInt8} (absent : carriageReturn ∉ bytes) :
    carriageReturn ∉ sealed bytes := by
  have tag : carriageReturn ∉ checksumTag := by decide
  have digits := Text.not_mem_bytesOf.mpr (hexWord_unbroken (checksum (bytes ++ checksumTag)))
  simp only [sealed, List.mem_append]
  rintro ((member | member) | member)
  · exact absent member
  · exact tag member
  · exact digits member

theorem sequenceDigit_ne (number : UInt8) : sequenceDigit number ≠ carriageReturn := by
  intro same
  have value := congrArg UInt8.toNat same
  simp [sequenceDigit, carriageReturn, UInt8.toNat_add, UInt8.toNat_mod] at value
  omega

/-- A trailer holds no carriage return. -/
theorem Trailer.append_absent {body : List UInt8} (absent : carriageReturn ∉ body)
    (trailer : Trailer) : carriageReturn ∉ trailer.append body := by
  cases trailer with
  | none => exact absent
  | checksum => exact sealed_absent absent
  | sequenced number =>
    apply sealed_absent
    have tag : carriageReturn ∉ sequenceTag := by decide
    simp [absent, tag, (sequenceDigit_ne number).symm]

/-- With a trailer a frame says something in any case. -/
theorem Trailer.append_spoken {body : List UInt8} (spoken : body = [] ∨ ∃ b ∈ body, b ≠ lineFeed)
    (trailer : Trailer) :
    trailer.append body = [] ∨ ∃ b ∈ trailer.append body, b ≠ lineFeed := by
  have tagged (bytes : List UInt8) : ∃ b ∈ sealed bytes, b ≠ lineFeed :=
    ⟨65, by simp [sealed, checksumTag], by decide⟩
  cases trailer with
  | none => exact spoken
  | checksum => exact .inr (tagged _)
  | sequenced number => exact .inr (tagged _)

/-- A letter or a digit of a text is a byte other than a line feed. -/
theorem bytesOf_spoken {body : String}
    (spoken : body = "" ∨ ∃ c ∈ body.toList, c.isAlphanum = true) :
    Text.bytesOf body = [] ∨ ∃ b ∈ Text.bytesOf body, b ≠ lineFeed := by
  refine spoken.imp (fun empty => by rw [empty]; rfl) ?_
  rintro ⟨c, member, sign⟩
  obtain ⟨low, ascii⟩ := Text.isAlphanum_range sign
  refine ⟨UInt8.ofNat c.toNat, (Text.mem_bytesOf ascii).mpr member, ?_⟩
  intro same
  have value : (UInt8.ofNat c.toNat).toNat = 10 := congrArg UInt8.toNat same
  rw [UInt8.toNat_ofNat', Nat.mod_eq_of_lt (by omega)] at value
  omega

theorem encode_isLine {body : String} (clean : Text.Unbroken body)
    (spoken : body = "" ∨ ∃ c ∈ body.toList, c.isAlphanum = true) (trailer : Trailer) :
    IsLine (encode body trailer carriageReturn) :=
  ⟨_, rfl, trailer.append_absent (Text.not_mem_bytesOf.mpr clean),
    trailer.append_spoken (bytesOf_spoken spoken)⟩

theorem resendRequest_isLine (errorDetection : Bool) :
    IsLine (resendRequest errorDetection carriageReturn) :=
  encode_isLine (by decide) (.inr ⟨'9', by decide, by decide⟩) _

end SelfCheck.Frame
