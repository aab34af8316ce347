import SelfCheck.Net.Network
import SelfCheck.Proofs.Text.Cut

/-! Which addresses belong to a network.

A mask keeps leading bits, so an address agrees with a network under its mask when both begin with
the same bits. An address that stands for an older one is compared as the older one. A network is
compared as it is written, and so one whose address stands for an older one has no members when it
shares all that such addresses have in common.
-/

set_option autoImplicit false

namespace SelfCheck.Net

/-! Addresses. -/

/-- The address of the newer family that stands for an older one. -/
def mappedBits (old : BitVec 32) : BitVec 128 := (0xFFFF : BitVec 96) ++ old

theorem toNat_mappedBits (old : BitVec 32) :
    (mappedBits old).toNat = 0xFFFF * 0x100000000 + old.toNat := by
  have low : old.toNat < 0x100000000 := old.isLt
  rw [mappedBits, BitVec.toNat_append, ← Nat.shiftLeft_add_eq_or_of_lt low, Nat.shiftLeft_eq]
  rfl

theorem mapped?_eq_some {bits : BitVec 128} {old : BitVec 32} :
    mapped? bits = some old ↔ bits = mappedBits old := by
  rw [mapped?, Nat.shiftRight_eq_div_pow]
  constructor
  · intro found
    split at found
    · next high =>
      cases found
      apply BitVec.eq_of_toNat_eq
      rw [toNat_mappedBits, BitVec.toNat_setWidth]
      omega
    · cases found
  · rintro rfl
    have low : old.toNat < 0x100000000 := old.isLt
    rw [if_pos (by rw [toNat_mappedBits]; omega)]
    congr 1
    apply BitVec.eq_of_toNat_eq
    rw [BitVec.toNat_setWidth, toNat_mappedBits]
    omega

/-- An address that begins as those that stand for older ones is one of them. -/
theorem eq_mappedBits {bits : BitVec 128} {old : BitVec 32}
    (same : ∀ i < 96, (mappedBits old).getMsbD i = bits.getMsbD i) :
    bits = mappedBits (bits.setWidth 32) := by
  apply BitVec.eq_of_getMsbD_eq
  intro i inside
  rw [mappedBits, BitVec.getMsbD_append]
  split
  · rw [BitVec.getMsbD_setWidth]
    grind
  · next lead =>
    rw [← same i (Nat.lt_of_not_le lead), mappedBits, BitVec.getMsbD_append, if_neg lead]

namespace IpAddress

/-- Addresses of one family that have their first bits in common. -/
def SharesLead (count : Nat) : IpAddress → IpAddress → Prop
  | .v4 a, .v4 b => ∀ i < count, a.getMsbD i = b.getMsbD i
  | .v6 a, .v6 b => ∀ i < count, a.getMsbD i = b.getMsbD i
  | _, _ => False

theorem sharesLead_self (count : Nat) (address : IpAddress) : address.SharesLead count address := by
  cases address <;> exact fun _ _ => rfl

/-- An address that stands for one of the older family. -/
def StandsForOlder (address : IpAddress) : Prop := ∃ old, address = .v6 (mappedBits old)

theorem canonical_mapped (old : BitVec 32) : (v6 (mappedBits old)).canonical = .v4 old := by
  rw [canonical, mapped?_eq_some.mpr rfl]

theorem canonical_of_own {address : IpAddress} (own : ¬address.StandsForOlder) :
    address.canonical = address := by
  cases address with
  | v4 bits => rfl
  | v6 bits =>
    have none : mapped? bits = none :=
      Option.eq_none_iff_forall_ne_some.mpr fun old found =>
        own ⟨old, congrArg v6 (mapped?_eq_some.mp found)⟩
    rw [canonical, none]

theorem canonical_own (address : IpAddress) : ¬address.canonical.StandsForOlder := by
  rintro ⟨old, same⟩
  cases address with
  | v4 bits => cases same
  | v6 bits =>
    cases found : mapped? bits with
    | none =>
      rw [canonical, found] at same
      cases same
      rw [mapped?_eq_some.mpr rfl] at found
      cases found
    | some older =>
      rw [canonical, found] at same
      cases same

end IpAddress

namespace Network

/-! Masks. -/

variable {width shared : Nat}

/-- The mask of a number of bits, by arithmetic that fails for a difference below zero and for a
shift by a whole word. -/
def checkedMask? (width shared : Nat) : Option (BitVec width) :=
  if shared = 0 then some 0
  else if shared ≤ width ∧ width - shared < width then
    some (BitVec.allOnes width <<< (width - shared))
  else none

theorem checkedMask?_eq (fits : shared ≤ width) :
    checkedMask? width shared = some (mask width shared) := by
  unfold checkedMask? mask
  by_cases none : shared = 0
  · rw [if_pos none, if_pos none]
  · have inside : shared ≤ width ∧ width - shared < width := by omega
    rw [if_neg none, if_pos inside, if_neg none]

theorem getMsbD_mask (fits : shared ≤ width) (i : Nat) :
    (mask width shared).getMsbD i = decide (i < shared) := by
  unfold mask
  split
  · next none => simp [none]
  · rw [BitVec.getMsbD_shiftLeft, BitVec.getMsbD_allOnes, decide_eq_decide]
    omega

theorem agree_iff (fits : shared ≤ width) (a b : BitVec width) :
    agree shared a b = true ↔ ∀ i < shared, a.getMsbD i = b.getMsbD i := by
  rw [agree, beq_iff_eq]
  constructor
  · intro same i lead
    have bit := congrArg (·.getMsbD i) same
    simpa [BitVec.getMsbD_and, getMsbD_mask fits, lead] using bit
  · intro same
    apply BitVec.eq_of_getMsbD_eq
    intro i _
    rw [BitVec.getMsbD_and, BitVec.getMsbD_and, getMsbD_mask fits]
    by_cases lead : i < shared
    · rw [same i lead]
    · simp [lead]

/-! Members. -/

variable {network : Network}

/-- A network contains the addresses that begin as its own does. -/
theorem contains_iff (network : Network) (address : IpAddress) :
    network.contains address = true ↔
      network.address.SharesLead network.shared address.canonical := by
  obtain ⟨own, shared, fits⟩ := network
  unfold contains
  cases own <;> cases address.canonical
  · exact agree_iff fits _ _
  · simp [IpAddress.SharesLead]
  · simp [IpAddress.SharesLead]
  · exact agree_iff fits _ _

theorem contains_address (own : ¬network.address.StandsForOlder) :
    network.contains network.address = true := by
  rw [contains_iff, IpAddress.canonical_of_own own]
  exact network.address.sharesLead_self network.shared

/-- Nothing is compared as it stands for an older address, so nothing begins as such addresses
do. -/
theorem contains_of_standsForOlder (older : network.address.StandsForOlder)
    (long : 96 ≤ network.shared) (address : IpAddress) : network.contains address = false := by
  obtain ⟨old, own⟩ := older
  rw [← Bool.not_eq_true, contains_iff, own]
  intro shares
  have compared := address.canonical_own
  cases canonical : address.canonical with
  | v4 bits =>
    rw [canonical] at shares
    exact shares
  | v6 bits =>
    rw [canonical] at shares compared
    have lead : ∀ i < 96, (mappedBits old).getMsbD i = bits.getMsbD i :=
      fun i inside => shares i (Nat.lt_of_lt_of_le inside long)
    exact compared ⟨_, congrArg IpAddress.v6 (eq_mappedBits lead)⟩

/-! Texts. -/

/-- How a network is written: an address and, behind a slash, the number of bits that are shared.
Without a slash all are. -/
def WrittenAs (network : Network) (raw : String) : Prop :=
  ∃ address, '/' ∉ address ∧ IpAddress.read? (String.ofList address) = some network.address ∧
    (Text.trimChars raw.toList = address ∧ network.shared = network.address.width ∨
      ∃ count, Text.trimChars raw.toList = address ++ '/' :: count ∧
        Text.readBounded? Text.maxByte (Text.trimChars count) = some network.shared)

theorem read_eq_ok_iff {raw : String} : read raw = .ok network ↔ network.WrittenAs raw := by
  unfold read WrittenAs Text.trim
  simp only [String.toList_ofList]
  generalize Text.trimChars raw.toList = text
  cases cut : Text.cutAt? ['/'] text with
  | none =>
    have absent := Text.cutAt?_char_eq_none.mp cut
    dsimp only
    constructor
    · intro accepted
      split at accepted
      · cases accepted
      · next address readable =>
        cases accepted
        exact ⟨_, absent, readable, .inl ⟨rfl, rfl⟩⟩
    · rintro ⟨address, -, readable, ⟨rfl, all⟩ | ⟨count, rfl, -⟩⟩
      · obtain ⟨own, shared, fits⟩ := network
        dsimp only at all readable
        subst all
        rw [readable]
      · exact absurd (by simp) absent
  | some parts =>
    obtain ⟨front, back⟩ := parts
    obtain ⟨rfl, absent⟩ := Text.cutAt?_char_eq_some.mp cut
    dsimp only
    constructor
    · intro accepted
      split at accepted
      · cases accepted
      · next address readable =>
        split at accepted
        · cases accepted
        · next shared counted =>
          split at accepted
          · cases accepted
            exact ⟨_, absent, readable, .inr ⟨_, rfl, counted⟩⟩
          · cases accepted
    · rintro ⟨address, absent', readable, ⟨rfl, -⟩ | ⟨count, whole, counted⟩⟩
      · exact absurd (by simp) absent'
      · rw [Text.cutAt?_char_eq_some.mpr ⟨whole, absent'⟩] at cut
        cases cut
        simp only [readable, counted, network.shared_le, ↓reduceDIte]

/-- A network contains an address just when the address, taken for the older one if it stands for
one, is of the family of the network's own and begins with the shared bits. So a network contains
the address that it is written with, unless that stands for an older one. If it does, and all bits
are shared that such addresses have in common, there are no members. The mask is computed without a
difference below zero and without a shift by a whole word. -/
theorem members_begin_alike {raw : String} {network : Network}
    (accepted : Network.read raw = .ok network) :
    network.WrittenAs raw ∧
      (∀ address, network.contains address = true ↔
        network.address.SharesLead network.shared address.canonical) ∧
      (¬network.address.StandsForOlder → network.contains network.address = true) ∧
      (network.address.StandsForOlder → 96 ≤ network.shared →
        ∀ address, network.contains address = false) ∧
      checkedMask? network.address.width network.shared =
        some (mask network.address.width network.shared) :=
  ⟨read_eq_ok_iff.mp accepted, contains_iff network, contains_address, contains_of_standsForOlder,
    checkedMask?_eq network.shared_le⟩

/-- A network written with bits behind the shared ones, and a terminal with an address that stands
for an older one. -/
theorem members_begin_alike_behind :
    let network : Network := ⟨.v4 0x0A010203, 16, by decide⟩
    let peer : IpAddress := .v6 (mappedBits 0x0A01C803)
    Network.read " 10.1.2.3/16" = .ok network ∧ network.contains peer = true ∧
      network.contains (.v4 0x0A020203) = false ∧ network.contains network.address = true := by
  intro network peer
  have accepted : Network.read " 10.1.2.3/16" = .ok network := rfl
  obtain ⟨-, members, own, -⟩ := members_begin_alike accepted
  refine ⟨accepted, (members peer).mpr ?_, Bool.eq_false_iff.mpr fun within => ?_, own ?_⟩
  · rw [IpAddress.canonical_mapped]
    show ∀ i < 16, _
    decide
  · have shares : ∀ i < 16, BitVec.getMsbD 0x0A010203#32 i = BitVec.getMsbD 0x0A020203#32 i :=
      (members _).mp within
    exact absurd (shares 14 (by decide)) (by decide)
  · rintro ⟨old, same⟩
    cases same

/-- The addresses that stand for 10.0.0.0 to 10.255.255.255 are written as a network, and neither
one of them nor an address that they stand for belongs to it. -/
theorem mapped_network_without_members :
    let old : BitVec 32 := 0x0A000000
    let network : Network := ⟨.v6 (mappedBits old), 96 + 8, by decide⟩
    let peer : BitVec 32 := 0x0A010203
    Network.read "::ffff:10.0.0.0/104" = .ok network ∧
      (IpAddress.v4 old).SharesLead 8 (.v4 peer) ∧ network.contains (.v4 peer) = false ∧
      network.contains (.v6 (mappedBits peer)) = false ∧
      network.contains network.address = false := by
  intro old network peer
  have none (address : IpAddress) : network.contains address = false :=
    contains_of_standsForOlder ⟨old, rfl⟩ (by decide) address
  have accepted : Network.read "::ffff:10.0.0.0/104" = .ok network :=
    read_eq_ok_iff.mpr ⟨"::ffff:10.0.0.0".toList, by decide, by decide +kernel,
      .inr ⟨['1', '0', '4'], by decide, by decide⟩⟩
  refine ⟨accepted, ?_, none _, none _, none _⟩
  show ∀ i < 8, _
  decide

end Network

end SelfCheck.Net
