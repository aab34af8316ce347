import SelfCheck.Proofs.Sorted
import SelfCheck.Proofs.Traversal
import SelfCheck.Resolver.Spec

/-! The network that decides about a connection.

Networks are asked in the order of the number of bits that they share, most first. So the first one
that contains a terminal's address shares the most bits of all that contain it, whatever their
families are and wherever they were written.
-/

set_option autoImplicit false

namespace SelfCheck

/-- The first member with a property, where what counts for more stands further in front. -/
theorem le_of_find?_eq_some {α : Type} {rank : α → Nat} {l : List α} {p : α → Bool} {found : α}
    (ordered : l.Pairwise fun a b => rank b ≤ rank a) (first : l.find? p = some found) :
    ∀ other ∈ l, p other = true → rank other ≤ rank found := by
  obtain ⟨-, front, back, rfl, none⟩ := List.find?_eq_some_iff_append.mp first
  intro other member holds
  rcases List.mem_append.mp member with early | later
  · have fails := none other early
    rw [holds] at fails
    cases fails
  · rcases List.mem_cons.mp later with rfl | later
    · exact Nat.le_refl _
    · exact (List.pairwise_cons.mp (List.pairwise_append.mp ordered).2.1).1 other later

namespace ResolverSpec

variable {networks : List (Net.Network × TenantId)}

theorem mem_bySharedBits {entry : Net.Network × TenantId} :
    entry ∈ bySharedBits networks ↔ entry ∈ networks := List.mem_mergeSort

theorem bySharedBits_ordered (networks : List (Net.Network × TenantId)) :
    (bySharedBits networks).Pairwise fun a b => b.1.shared ≤ a.1.shared := by
  have ordered : (bySharedBits networks).Pairwise fun a b => decide (b.1.shared ≤ a.1.shared) :=
    List.pairwise_mergeSort (by simp only [decide_eq_true_eq]; omega)
      (by simp only [Bool.or_eq_true, decide_eq_true_eq]; omega) networks
  exact ordered.imp of_decide_eq_true

/-- What a table of networks says: a network, and the library of those who connect from there. -/
def Lists (table : List (String × String)) (network : Net.Network) (tenant : TenantId) : Prop :=
  ∃ entry ∈ table, Net.Network.read entry.1 = .ok network ∧ TenantId.of entry.2 = .ok tenant

theorem networkEntry_eq_ok {entry : String × String} {network : Net.Network} {tenant : TenantId} :
    networkEntry entry = .ok (network, tenant) ↔
      Net.Network.read entry.1 = .ok network ∧ TenantId.of entry.2 = .ok tenant := by
  unfold networkEntry ResolverSpec.tenant
  cases Net.Network.read entry.1 <;> cases TenantId.of entry.2 <;>
    simp [Except.mapError, bind, Except.bind, pure, Except.pure]

theorem mem_of_mapM_networkEntry {table : List (String × String)}
    (made : table.mapM networkEntry = .ok networks) {network : Net.Network} {tenant : TenantId} :
    (network, tenant) ∈ networks ↔ Lists table network tenant := by
  constructor
  · intro member
    obtain ⟨entry, inside, reads⟩ := mem_of_mapM_eq_ok made member
    exact ⟨entry, inside, networkEntry_eq_ok.mp reads⟩
  · rintro ⟨entry, inside, reads⟩
    obtain ⟨result, member, same⟩ := result_of_mapM_eq_ok made inside
    rw [networkEntry_eq_ok.mpr reads] at same
    cases same
    exact member

theorem build_subnet_eq_ok {table : List (String × String)} {resolver : Resolver}
    (built : (subnet table).build = .ok resolver) :
    ∃ networks, table.mapM networkEntry = .ok networks ∧
      resolver = .subnet (bySharedBits networks) := by
  rw [build] at built
  cases made : table.mapM networkEntry with
  | error fault =>
    rw [made] at built
    cases built
  | ok networks =>
    rw [made] at built
    cases built
    exact ⟨networks, rfl, rfl⟩

/-! Tables as they are written. -/

/-- A table of networks in a document. -/
def subnetTree (written : List (String × String)) : Tree :=
  .record [("kind", .text "subnet"),
    ("networks", .record (written.map fun entry => (entry.1, .text entry.2)))]

theorem ofTree?_subnetTree (written : List (String × String)) :
    ofTree? (subnetTree written) = some (.subnet (Sorted.ofList written)) := by
  have texts : Tree.allMembers (fun leaf => !leaf.isBroken && leaf.fitsWord)
      (written.map fun entry => (entry.1, .text entry.2)) = true := by
    induction written with
    | nil => rfl
    | cons entry written ih =>
      rw [List.map_cons, Tree.allMembers, ih]
      rfl
  have entries : Tree.recordOf Tree.text?
      (.record (written.map fun entry => (entry.1, .text entry.2))) = some written := by
    clear texts
    induction written with
    | nil => rfl
    | cons entry written ih =>
      simp only [Tree.recordOf] at ih ⊢
      rw [List.map_cons, List.mapM_cons, ih]
      rfl
  have table : table? (.record (written.map fun entry => (entry.1, .text entry.2))) =
      some (Sorted.ofList written) := by
    rw [table?, entries, Option.map_some]
  have whole : (subnetTree written).allLeaves (fun leaf => !leaf.isBroken && leaf.fitsWord) =
      true := by
    simp only [subnetTree, Tree.allLeaves, Tree.allMembers, texts]
    rfl
  rw [ofTree?, whole]
  simp [subnetTree, kind?, Tree.fields?, Tree.Fields.required, table]

theorem lists_of_perm {table again : List (String × String)} (reordered : again.Perm table)
    {network : Net.Network} {tenant : TenantId} :
    Lists again network tenant ↔ Lists table network tenant := by
  simp only [Lists, reordered.mem_iff]

theorem resolve?_subnet (facts : Facts) :
    (Resolver.subnet networks).resolve? facts =
      (networks.find? fun entry => entry.1.contains facts.peer).map fun entry =>
        { tenant := entry.2 } := rfl

/-- What a resolver answers that has been built from a table. -/
theorem resolve?_eq_some {table : List (String × String)} {resolver : Resolver}
    (built : (subnet table).build = .ok resolver) {facts : Facts} {answer : Resolved}
    (resolves : resolver.resolve? facts = some answer) :
    answer.loginUser = none ∧ ∃ network, Lists table network answer.tenant ∧
      network.contains facts.peer = true ∧
      ∀ wider tenant, Lists table wider tenant → wider.contains facts.peer = true →
        wider.shared ≤ network.shared := by
  obtain ⟨networks, made, rfl⟩ := build_subnet_eq_ok built
  rw [resolve?_subnet] at resolves
  obtain ⟨⟨network, tenant⟩, found, rfl⟩ := Option.map_eq_some_iff.mp resolves
  have listed : Lists table network tenant :=
    (mem_of_mapM_networkEntry made).mp (mem_bySharedBits.mp (List.mem_of_find?_eq_some found))
  have contains : network.contains facts.peer = true := by simpa using List.find?_some found
  refine ⟨rfl, network, listed, contains, ?_⟩
  intro wider other also within
  have member := mem_bySharedBits.mpr ((mem_of_mapM_networkEntry made).mpr also)
  exact le_of_find?_eq_some (bySharedBits_ordered networks) found _ member within

theorem resolve?_eq_none {table : List (String × String)} {resolver : Resolver}
    (built : (subnet table).build = .ok resolver) {facts : Facts} :
    resolver.resolve? facts = none ↔
      ∀ network tenant, Lists table network tenant → network.contains facts.peer = false := by
  obtain ⟨networks, made, rfl⟩ := build_subnet_eq_ok built
  simp only [resolve?_subnet, Option.map_eq_none_iff, List.find?_eq_none, mem_bySharedBits,
    Bool.not_eq_true, Prod.forall, mem_of_mapM_networkEntry made]

/-- A table of networks that is written down, in any order, and whose resolver can be built has a
network and a library in every entry. Its resolver answers a terminal that connects from one of the
networks with the library of one that contains the address and shares the most bits of all that do,
and it does not answer any other terminal. It is the same resolver for every order. -/
theorem longest_network_answers {written : List (String × String)}
    (distinct : (written.map (·.1)).Nodup) {resolver : Resolver}
    (builds : (ofTree? (subnetTree written)).map build = some (.ok resolver)) (facts : Facts) :
    (∀ entry ∈ written, ∃ network tenant,
      Net.Network.read entry.1 = .ok network ∧ TenantId.of entry.2 = .ok tenant) ∧
    (resolver.resolve? facts = none ↔
      ∀ network tenant, Lists written network tenant → network.contains facts.peer = false) ∧
    (∀ answer, resolver.resolve? facts = some answer →
      answer.loginUser = none ∧ ∃ network, Lists written network answer.tenant ∧
        network.contains facts.peer = true ∧
        ∀ wider tenant, Lists written wider tenant → wider.contains facts.peer = true →
          wider.shared ≤ network.shared) ∧
    ∀ again : List (String × String), again.Perm written →
      (ofTree? (subnetTree again)).map build = some (.ok resolver) := by
  rw [ofTree?_subnetTree, Option.map_some, Option.some.injEq] at builds
  have table : (Sorted.ofList written).Perm written := Sorted.ofList_perm distinct
  refine ⟨?_, ?_, ?_, ?_⟩
  · intro entry member
    obtain ⟨networks, made, -⟩ := build_subnet_eq_ok builds
    obtain ⟨⟨network, tenant⟩, -, reads⟩ :=
      result_of_mapM_eq_ok made (table.mem_iff.mpr member)
    exact ⟨network, tenant, networkEntry_eq_ok.mp reads⟩
  · simp only [resolve?_eq_none builds, lists_of_perm table]
  · intro answer resolves
    have answers := resolve?_eq_some builds resolves
    simpa only [lists_of_perm table] using answers
  · intro again reordered
    rw [ofTree?_subnetTree, Option.map_some, Sorted.ofList_eq_of_perm distinct reordered, builds]

/-- A network within two others, and one of the other family. -/
def nested : List (String × String) :=
  [("10.0.0.0/8", "wide"), ("::/0", "new"), ("10.1.0.7/16", "narrow"), ("0.0.0.0/0", "rest")]

theorem longest_network_answers_narrow :
    let facts : Facts := { port := 6443, peer := .v6 0xFFFF0A010203 }
    (nested.map (·.1)).Nodup ∧ ∃ resolver,
      (ofTree? (subnetTree nested)).map build = some (.ok resolver) ∧
      ∃ answer, resolver.resolve? facts = some answer ∧ answer.tenant.text = "narrow" := by
  intro facts
  have distinct : (nested.map (·.1)).Nodup := by decide
  have builds : ∃ resolver, (subnet (Sorted.ofList nested)).build = .ok resolver := ⟨_, rfl⟩
  obtain ⟨resolver, built⟩ := builds
  have read : (ofTree? (subnetTree nested)).map build = some (.ok resolver) := by
    rw [ofTree?_subnetTree, Option.map_some, built]
  obtain ⟨-, declines, answers, -⟩ := longest_network_answers distinct read facts
  let narrow : Net.Network := ⟨.v4 0x0A010007, 16, by decide⟩
  have listed : Lists nested narrow ⟨"narrow", by decide⟩ :=
    ⟨("10.1.0.7/16", "narrow"), by decide, rfl, rfl⟩
  have within : narrow.contains facts.peer = true := by decide
  refine ⟨distinct, resolver, read, ?_⟩
  cases resolved : resolver.resolve? facts with
  | none =>
    have outside := declines.mp resolved _ _ listed
    rw [within] at outside
    cases outside
  | some answer =>
    obtain ⟨-, network, ⟨entry, member, reads, names⟩, -, longest⟩ := answers answer resolved
    have long : 16 ≤ network.shared := longest narrow _ listed within
    refine ⟨answer, rfl, ?_⟩
    simp only [nested, List.mem_cons, List.not_mem_nil, or_false] at member
    -- The other three share fewer bits.
    rcases member with rfl | rfl | rfl | rfl
    · cases reads
      exact absurd long (by decide)
    · cases reads
      exact absurd long (by decide)
    · have named : answer.tenant = ⟨"narrow", by decide⟩ := (Except.ok.inj names).symm
      rw [named]
    · cases reads
      exact absurd long (by decide)

end ResolverSpec

end SelfCheck
