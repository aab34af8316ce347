import SelfCheck.Proofs.Token

/-! The store as a list of tokens in the order of their last use.

Stamps are not seen from outside. Whoever uses a store cannot tell it from a list that has the
account used last in front: what is used comes to the front, and what makes room stands last. The
two maps of the store are those of one row of slots with rising stamps, which is this list from
behind.
-/

set_option autoImplicit false

namespace SelfCheck

/-- Tokens with their accounts, the one used last in front. -/
abbrev Shelf := List (Account × Token)

namespace Shelf

open TokenCache (without)

/-- An account that is there comes to the front. -/
def use (shelf : Shelf) (account : Account) : Shelf :=
  match shelf.lookup account with
  | some token => (account, token) :: without account shelf
  | none => shelf

/-- A token is handed out only before its expiration; its account comes to the front either way. -/
def get (shelf : Shelf) (account : Account) (now : Time.Moment) : Option Token × Shelf :=
  ((shelf.lookup account).filter fun token => decide (now < token.access), shelf.use account)

/-- A token takes the place of the account's former one, or that of the last one when there are as
many as there may be. The first part is the account that had to make room. -/
def insert (capacity : Nat) (shelf : Shelf) (account : Account) (token : Token) :
    Option Account × Shelf :=
  if (shelf.lookup account).isSome then (none, (account, token) :: without account shelf)
  else if shelf.length < capacity then (none, (account, token) :: shelf)
  else (shelf.getLast?.map (·.1), (account, token) :: shelf.dropLast)

end Shelf

namespace TokenCache

/-- What a store may be asked for. -/
inductive Operation where
  | insert (account : Account) (token : Token)
  | get (account : Account) (now : Time.Moment)
  | invalidate (account : Account)
  | contains (account : Account)
  | size

/-- What it answers. -/
inductive Finding where
  | evicted (account : Option Account)
  | token (token : Option Token)
  | present (present : Bool)
  | count (n : Nat)
  deriving DecidableEq

def perform (cache : TokenCache) : Operation → Finding × TokenCache
  | .insert account token => (cache.insert account token).map .evicted id
  | .get account now => (cache.get account now).map .token id
  | .invalidate account => (cache.invalidate account).map .present id
  | .contains account => (.present (cache.contains account), cache)
  | .size => (.count cache.size, cache)

/-- The answers to some operations, and the store afterwards. -/
def performAll (cache : TokenCache) : List Operation → List Finding × TokenCache
  | [] => ([], cache)
  | operation :: operations =>
    let (finding, cache) := cache.perform operation
    (cache.performAll operations).map (finding :: ·) id

end TokenCache

namespace Shelf

open TokenCache (Operation Finding without)

def perform (capacity : Nat) (shelf : Shelf) : Operation → Finding × Shelf
  | .insert account token => (shelf.insert capacity account token).map .evicted id
  | .get account now => (shelf.get account now).map .token id
  | .invalidate account => (.present (shelf.lookup account).isSome, without account shelf)
  | .contains account => (.present (shelf.lookup account).isSome, shelf)
  | .size => (.count shelf.length, shelf)

def performAll (capacity : Nat) (shelf : Shelf) : List Operation → List Finding × Shelf
  | [] => ([], shelf)
  | operation :: operations =>
    let (finding, shelf) := shelf.perform capacity operation
    (performAll capacity shelf operations).map (finding :: ·) id

end Shelf

namespace Sorted

/-- What is greater than all keys is put behind them. -/
theorem put_of_lt {key : Nat} {α : Type} (value : α) {bindings : List (Nat × α)}
    (above : ∀ binding ∈ bindings, binding.1 < key) :
    put key value bindings = bindings ++ [(key, value)] := by
  induction bindings with
  | nil => rfl
  | cons head rest ih =>
    obtain ⟨lower, above⟩ := List.forall_mem_cons.mp above
    have behind : ¬key < head.1 := Nat.lt_asymm lower
    rw [put, if_neg (Nat.ne_of_gt lower), if_neg behind, ih above, List.cons_append]

end Sorted

namespace TokenCache

/-- An entry together with its place in the order. -/
structure Slot where
  stamp : Nat
  account : Account
  token : Token

/-- The slots of all accounts but one. -/
def others (account : Account) (slots : List Slot) : List Slot :=
  slots.filter (·.account ≠ account)

/-- Slots as users see them. -/
def shelf (slots : List Slot) : Shelf := (slots.map fun slot => (slot.account, slot.token)).reverse

/-- Slots with rising stamps, none above the last one given, and each account once. -/
structure Row (last : Nat) (slots : List Slot) : Prop where
  rising : slots.Pairwise (·.stamp < ·.stamp)
  apart : slots.Pairwise (·.account ≠ ·.account)
  stamped : ∀ slot ∈ slots, slot.stamp ≤ last

/-- A store whose two maps are those of some slots. -/
structure Holds (cache : TokenCache) (slots : List Slot) : Prop where
  row : Row cache.lastStamp slots
  entries : cache.entries.Perm (slots.map fun slot => (slot.account, slot.token, slot.stamp))
  order : cache.order = slots.map fun slot => (slot.stamp, slot.account)

variable {cache : TokenCache} {account : Account} {last : Nat} {slots : List Slot}
  {slot other : Slot}

/-! Slots. -/

theorem others_of_absent (absent : ∀ slot ∈ slots, slot.account ≠ account) :
    others account slots = slots :=
  List.filter_eq_self.mpr (by simpa using absent)

theorem absent_others : ∀ slot ∈ others account slots, slot.account ≠ account := by
  simp [others]

theorem present_or_absent (account : Account) (slots : List Slot) :
    (∃ slot ∈ slots, slot.account = account) ∨ ∀ slot ∈ slots, slot.account ≠ account := by
  by_cases present : ∃ slot ∈ slots, slot.account = account
  · exact .inl present
  · exact .inr fun slot held same => present ⟨slot, held, same⟩

namespace Row

theorem others (row : Row last slots) (account : Account) : Row last (others account slots) where
  rising := row.rising.filter _
  apart := row.apart.filter _
  stamped := fun slot held => row.stamped slot (List.mem_filter.mp held).1

/-- Another slot behind all others. -/
theorem push (row : Row last slots) (absent : ∀ slot ∈ slots, slot.account ≠ account)
    (token : Token) : Row (last + 1) (slots ++ [⟨last + 1, account, token⟩]) where
  rising := by
    refine List.pairwise_append.mpr ⟨row.rising, List.pairwise_singleton _ _, ?_⟩
    intro slot held new same
    rw [List.mem_singleton.mp same]
    exact Nat.lt_succ_of_le (row.stamped slot held)
  apart := by
    refine List.pairwise_append.mpr ⟨row.apart, List.pairwise_singleton _ _, ?_⟩
    intro slot held new same
    rw [List.mem_singleton.mp same]
    exact absent slot held
  stamped := by
    intro slot held
    rcases List.mem_append.mp held with old | new
    · exact Nat.le_succ_of_le (row.stamped slot old)
    · obtain rfl := List.mem_singleton.mp new
      exact Nat.le_refl _

/-- Slots of one row have the same stamp just when they have the same account. -/
theorem stamp_eq_iff (row : Row last slots) (held : slot ∈ slots) (also : other ∈ slots) :
    other.stamp = slot.stamp ↔ other.account = slot.account := by
  constructor
  · intro same
    rw [eq_of_apart (row.rising.imp Nat.ne_of_lt) also held same]
  · intro same
    rw [eq_of_apart row.apart also held same]

theorem perm_others (row : Row last slots) (held : slot ∈ slots) :
    slots.Perm (TokenCache.others slot.account slots ++ [slot]) := by
  obtain ⟨front, back, rfl⟩ := List.append_of_mem held
  obtain ⟨-, behind, cross⟩ := List.pairwise_append.mp row.apart
  have before : TokenCache.others slot.account front = front :=
    others_of_absent fun other member => cross other member slot List.mem_cons_self
  have after : TokenCache.others slot.account back = back :=
    others_of_absent fun other member => ((List.pairwise_cons.mp behind).1 other member).symm
  have rest : TokenCache.others slot.account (front ++ slot :: back) = front ++ back := by
    rw [← before, ← after]
    simp [TokenCache.others]
  rw [rest]
  exact List.perm_middle.trans (List.perm_append_singleton slot _).symm

end Row

/-! The maps of a store, by its slots. -/

section Lookup

variable {κ α : Type} [DecidableEq κ] {key : κ} {value : α} {bindings : List (κ × α)}

theorem lookup_of_mem (apart : bindings.Pairwise (·.1 ≠ ·.1)) (held : (key, value) ∈ bindings) :
    bindings.lookup key = some value := by
  obtain ⟨front, back, rfl⟩ := List.append_of_mem held
  refine List.lookup_eq_some_iff.mpr ⟨front, back, rfl, fun binding member => ?_⟩
  have differs := (List.pairwise_append.mp apart).2.2 binding member _ List.mem_cons_self
  simpa using differs.symm

theorem lookup_of_absent (absent : ∀ binding ∈ bindings, binding.1 ≠ key) :
    bindings.lookup key = none :=
  List.lookup_eq_none_iff.mpr fun binding member => by
    simpa using (absent binding member).symm

end Lookup

theorem capacity_remove (cache : TokenCache) (account : Account) :
    (cache.remove account).capacity = cache.capacity := by
  unfold remove
  split <;> rfl

theorem capacity_makeRoom (cache : TokenCache) : cache.makeRoom.2.capacity = cache.capacity := by
  unfold makeRoom
  split
  · rfl
  · split <;> rfl

theorem capacity_insert (cache : TokenCache) (account : Account) (token : Token) :
    (cache.insert account token).2.capacity = cache.capacity :=
  (capacity_makeRoom (cache.remove account)).trans (capacity_remove cache account)

namespace Holds

theorem size (holds : cache.Holds slots) : cache.size = slots.length := by
  rw [TokenCache.size, holds.entries.length_eq, List.length_map]

theorem lookup_of_mem (holds : cache.Holds slots) (held : slot ∈ slots) :
    cache.entries.lookup slot.account = some (slot.token, slot.stamp) := by
  refine TokenCache.lookup_of_mem ?_ (holds.entries.mem_iff.mpr (List.mem_map_of_mem held))
  exact holds.entries.symm.pairwise (List.pairwise_map.mpr holds.row.apart) Ne.symm

theorem lookup_of_absent (holds : cache.Holds slots)
    (absent : ∀ slot ∈ slots, slot.account ≠ account) : cache.entries.lookup account = none := by
  refine TokenCache.lookup_of_absent fun entry member => ?_
  obtain ⟨slot, held, rfl⟩ := List.mem_map.mp (holds.entries.mem_iff.mp member)
  exact absent slot held

/-- Without the entry of one slot, both maps are those of the other slots. -/
theorem without (holds : cache.Holds slots) (held : slot ∈ slots) :
    (TokenCache.without slot.account cache.entries).Perm
        ((others slot.account slots).map fun slot => (slot.account, slot.token, slot.stamp)) ∧
      TokenCache.without slot.stamp cache.order =
        (others slot.account slots).map fun slot => (slot.stamp, slot.account) := by
  constructor
  · have entries := holds.entries.filter fun entry => entry.1 ≠ slot.account
    rwa [List.filter_map] at entries
  · rw [holds.order, TokenCache.without, List.filter_map]
    refine congrArg _ (List.filter_congr fun other also => ?_)
    simp [holds.row.stamp_eq_iff held also]

theorem remove (holds : cache.Holds slots) (account : Account) :
    (cache.remove account).Holds (others account slots) := by
  unfold TokenCache.remove
  rcases present_or_absent account slots with ⟨slot, held, rfl⟩ | absent
  · rw [holds.lookup_of_mem held]
    obtain ⟨entries, order⟩ := holds.without held
    exact ⟨holds.row.others _, entries, order⟩
  · rw [holds.lookup_of_absent absent, others_of_absent absent]
    exact holds

/-- A new slot behind the others. -/
theorem push (holds : cache.Holds slots) (absent : ∀ slot ∈ slots, slot.account ≠ account)
    (token : Token) :
    Holds { cache with
        entries := (account, token, cache.lastStamp + 1) :: cache.entries
        order := Sorted.put (cache.lastStamp + 1) account cache.order
        lastStamp := cache.lastStamp + 1 }
      (slots ++ [⟨cache.lastStamp + 1, account, token⟩]) where
  row := holds.row.push absent token
  entries := by
    rw [List.map_append]
    exact (holds.entries.cons _).trans (List.perm_append_singleton _ _).symm
  order := by
    rw [Sorted.put_of_lt, holds.order, List.map_append]
    · rfl
    · intro binding member
      rw [holds.order] at member
      obtain ⟨slot, held, rfl⟩ := List.mem_map.mp member
      exact Nat.lt_succ_of_le (holds.row.stamped slot held)

theorem touch_of_absent (holds : cache.Holds slots)
    (absent : ∀ slot ∈ slots, slot.account ≠ account) : (cache.touch account).Holds slots := by
  unfold TokenCache.touch
  rw [holds.lookup_of_absent absent]
  exact ⟨⟨holds.row.rising, holds.row.apart,
    fun slot held => Nat.le_succ_of_le (holds.row.stamped slot held)⟩, holds.entries, holds.order⟩

/-- A slot that is used comes behind the others. -/
theorem touch_of_mem (holds : cache.Holds slots) (held : slot ∈ slots) :
    (cache.touch slot.account).Holds
      (others slot.account slots ++ [⟨cache.lastStamp + 1, slot.account, slot.token⟩]) := by
  obtain ⟨-, order⟩ := holds.without held
  have absent : ∀ other ∈ others slot.account slots, other.account ≠ slot.account := absent_others
  unfold TokenCache.touch
  rw [holds.lookup_of_mem held]
  refine ⟨(holds.row.others _).push absent _, ?_, ?_⟩
  · -- The entries stand where they stood, but one has another stamp.
    have entries := (holds.entries.trans ((holds.row.perm_others held).map _)).map fun entry =>
      if entry.1 = slot.account then (slot.account, slot.token, cache.lastStamp + 1) else entry
    refine entries.trans (.of_eq ?_)
    rw [List.map_map, List.map_append, List.map_append]
    congr 1
    · refine List.map_congr_left fun other member => ?_
      simp [absent other member]
    · simp
  · dsimp only
    rw [order, Sorted.put_of_lt, List.map_append]
    · rfl
    · intro binding member
      obtain ⟨other, also, rfl⟩ := List.mem_map.mp member
      exact Nat.lt_succ_of_le (holds.row.stamped other (List.mem_filter.mp also).1)

/-- The first slot makes room when there is no room for another one. -/
theorem makeRoom (holds : cache.Holds slots) (full : ¬slots.length < cache.capacity) :
    cache.makeRoom.1 = slots.head?.map (·.account) ∧ cache.makeRoom.2.Holds slots.tail := by
  rw [← holds.size] at full
  unfold TokenCache.makeRoom
  rw [if_neg full]
  cases slots with
  | nil =>
    rw [holds.order]
    exact ⟨rfl, holds⟩
  | cons slot rest =>
    obtain ⟨first, apart⟩ := List.pairwise_cons.mp holds.row.apart
    have spared : others slot.account (slot :: rest) = rest := by
      rw [others, List.filter_cons_of_neg (by simp)]
      exact others_of_absent fun other member => (first other member).symm
    obtain ⟨entries, -⟩ := holds.without List.mem_cons_self
    rw [spared] at entries
    rw [holds.order]
    exact ⟨rfl, ⟨(List.pairwise_cons.mp holds.row.rising).2, apart,
      fun other member => holds.row.stamped other (List.mem_cons_of_mem _ member)⟩, entries, rfl⟩

/-- A token that finds room, or takes the place of its account's former one. -/
theorem insert_of_room (holds : cache.Holds slots)
    (room : (others account slots).length < cache.capacity) (token : Token) :
    (cache.insert account token).1 = none ∧ ∃ stamp,
      (cache.insert account token).2.Holds (others account slots ++ [⟨stamp, account, token⟩]) := by
  have less := holds.remove account
  have stays : (cache.remove account).makeRoom = (none, cache.remove account) := by
    refine if_pos ?_
    rwa [less.size, capacity_remove]
  unfold TokenCache.insert
  rw [stays]
  exact ⟨rfl, _, less.push absent_others token⟩

theorem insert_of_full (holds : cache.Holds slots)
    (full : ¬(others account slots).length < cache.capacity) (token : Token) :
    (cache.insert account token).1 = (others account slots).head?.map (·.account) ∧ ∃ stamp,
      (cache.insert account token).2.Holds
        ((others account slots).tail ++ [⟨stamp, account, token⟩]) := by
  obtain ⟨evicted, held⟩ := (holds.remove account).makeRoom (by rwa [capacity_remove])
  exact ⟨evicted, _, held.push
    (fun slot member => absent_others slot (List.mem_of_mem_tail member)) token⟩

end Holds

/-! What users see. -/

theorem shelf_push (slots : List Slot) (slot : Slot) :
    shelf (slots ++ [slot]) = (slot.account, slot.token) :: shelf slots := by
  simp [shelf]

theorem without_shelf (account : Account) (slots : List Slot) :
    without account (shelf slots) = shelf (others account slots) := by
  simp only [without, shelf, others, List.filter_reverse, List.filter_map]
  rfl

theorem lookup_shelf_of_mem (row : Row last slots) (held : slot ∈ slots) :
    (shelf slots).lookup slot.account = some slot.token := by
  refine lookup_of_mem ?_ (List.mem_reverse.mpr (List.mem_map_of_mem held))
  rw [shelf, List.pairwise_reverse, List.pairwise_map]
  exact row.apart.imp Ne.symm

theorem lookup_shelf_of_absent (absent : ∀ slot ∈ slots, slot.account ≠ account) :
    (shelf slots).lookup account = none := by
  refine lookup_of_absent fun binding member => ?_
  obtain ⟨slot, held, rfl⟩ := List.mem_map.mp (List.mem_reverse.mp member)
  exact absent slot held

/-- A store that users cannot tell from a list. -/
def Shows (cache : TokenCache) (list : Shelf) : Prop :=
  ∃ slots, cache.Holds slots ∧ shelf slots = list ∧ slots.length ≤ cache.capacity

namespace Shows

variable {list : Shelf}

theorem empty (capacity : Nat) : (TokenCache.empty capacity).Shows [] :=
  ⟨[], ⟨⟨.nil, .nil, by simp⟩, .refl _, rfl⟩, rfl, Nat.zero_le _⟩

theorem size (shows : cache.Shows list) : cache.size = list.length := by
  obtain ⟨slots, holds, rfl, -⟩ := shows
  simp [holds.size, shelf]

theorem token? (shows : cache.Shows list) (account : Account) :
    cache.token? account = list.lookup account := by
  obtain ⟨slots, holds, rfl, -⟩ := shows
  rcases present_or_absent account slots with ⟨slot, held, rfl⟩ | absent
  · rw [TokenCache.token?, holds.lookup_of_mem held, lookup_shelf_of_mem holds.row held]
    rfl
  · rw [TokenCache.token?, holds.lookup_of_absent absent, lookup_shelf_of_absent absent]
    rfl

theorem contains (shows : cache.Shows list) (account : Account) :
    cache.contains account = (list.lookup account).isSome := by
  rw [← shows.token?, TokenCache.contains, TokenCache.token?, Option.isSome_map]

theorem touch (shows : cache.Shows list) (account : Account) :
    (cache.touch account).Shows (list.use account) := by
  obtain ⟨slots, holds, rfl, fits⟩ := shows
  unfold Shelf.use
  rcases present_or_absent account slots with ⟨slot, held, rfl⟩ | absent
  · rw [lookup_shelf_of_mem holds.row held]
    refine ⟨_, holds.touch_of_mem held, ?_, ?_⟩
    · rw [shelf_push, without_shelf]
    · have same := (holds.row.perm_others held).length_eq
      rw [List.length_append, List.length_singleton] at same
      rwa [capacity_touch, List.length_append, List.length_singleton, ← same]
  · rw [lookup_shelf_of_absent absent]
    refine ⟨slots, holds.touch_of_absent absent, rfl, ?_⟩
    rwa [capacity_touch]

theorem remove (shows : cache.Shows list) (account : Account) :
    (cache.remove account).Shows (without account list) := by
  obtain ⟨slots, holds, rfl, fits⟩ := shows
  refine ⟨_, holds.remove account, (without_shelf account slots).symm, ?_⟩
  rw [capacity_remove]
  exact Nat.le_trans (List.length_filter_le _ _) fits

theorem get (shows : cache.Shows list) (account : Account) (now : Time.Moment) :
    (cache.get account now).1 = (list.get account now).1 := by
  show (cache.token? account).filter _ = (list.lookup account).filter _
  rw [shows.token?]
  refine congrArg (Option.filter · _) (funext fun token => ?_)
  rw [Token.isStale, ← decide_not]
  exact decide_eq_decide.mpr Int.not_le

theorem insert (shows : cache.Shows list) (account : Account) (token : Token) :
    (cache.insert account token).1 = (list.insert cache.capacity account token).1 ∧
      (cache.insert account token).2.Shows (list.insert cache.capacity account token).2 := by
  obtain ⟨slots, holds, rfl, fits⟩ := shows
  unfold Shelf.insert
  rcases present_or_absent account slots with ⟨slot, held, rfl⟩ | absent
  · -- The former token of the account leaves room for the new one.
    have fewer : (others slot.account slots).length < cache.capacity := by
      have same := (holds.row.perm_others held).length_eq
      rw [List.length_append, List.length_singleton] at same
      omega
    obtain ⟨none, stamp, after⟩ := holds.insert_of_room fewer token
    rw [lookup_shelf_of_mem holds.row held, Option.isSome_some, if_pos rfl]
    refine ⟨none, _, after, ?_, ?_⟩
    · rw [shelf_push, without_shelf]
    · rw [capacity_insert, List.length_append]
      exact fewer
  · have spared := others_of_absent absent
    have length : (shelf slots).length = slots.length := by simp [shelf]
    rw [lookup_shelf_of_absent absent, Option.isSome_none, if_neg (by simp), length]
    split
    · next room =>
      obtain ⟨none, stamp, after⟩ := holds.insert_of_room (by rwa [spared]) token
      rw [spared] at after
      refine ⟨none, _, after, shelf_push _ _, ?_⟩
      rw [capacity_insert, List.length_append]
      exact room
    · next full =>
      -- The slot with the smallest stamp is the last one of the list.
      obtain ⟨evicted, stamp, after⟩ := holds.insert_of_full (by rwa [spared]) token
      rw [spared] at evicted after
      refine ⟨?_, _, after, ?_, ?_⟩
      · rw [evicted]
        cases slots <;> simp [shelf]
      · rw [shelf_push]
        cases slots <;> simp [shelf]
      · have some := cache.capacity_pos
        rw [capacity_insert, List.length_append, List.length_tail, List.length_singleton]
        omega

/-- One operation: the same answer, and again a store that cannot be told from the list. -/
theorem perform (shows : cache.Shows list) (operation : Operation) :
    (cache.perform operation).1 = (list.perform cache.capacity operation).1 ∧
      (cache.perform operation).2.Shows (list.perform cache.capacity operation).2 := by
  cases operation with
  | insert account token =>
    obtain ⟨evicted, after⟩ := shows.insert account token
    exact ⟨congrArg _ evicted, after⟩
  | get account now => exact ⟨congrArg _ (shows.get account now), shows.touch account⟩
  | invalidate account => exact ⟨congrArg _ (shows.contains account), shows.remove account⟩
  | contains account => exact ⟨congrArg _ (shows.contains account), shows⟩
  | size => exact ⟨congrArg _ shows.size, shows⟩

end Shows

theorem capacity_perform (cache : TokenCache) (operation : Operation) :
    (cache.perform operation).2.capacity = cache.capacity := by
  cases operation with
  | insert account token => exact capacity_insert cache account token
  | get account now => exact capacity_touch cache account
  | invalidate account => exact capacity_remove cache account
  | contains account => rfl
  | size => rfl

theorem Shows.performAll {list : Shelf} (shows : cache.Shows list) (operations : List Operation) :
    (cache.performAll operations).1 = (list.performAll cache.capacity operations).1 ∧
      (cache.performAll operations).2.Shows (list.performAll cache.capacity operations).2 ∧
      (cache.performAll operations).2.capacity = cache.capacity := by
  induction operations generalizing cache list with
  | nil => exact ⟨rfl, shows, rfl⟩
  | cons operation operations ih =>
    obtain ⟨finding, after⟩ := shows.perform operation
    obtain ⟨findings, last, capacity⟩ := ih after
    rw [capacity_perform] at findings last capacity
    exact ⟨congr (congrArg _ finding) findings, last, capacity⟩

/-- The two maps of a store speak of the same accounts with the same stamps, each account and each
stamp once, and there are not more than there may be. -/
structure Consistent (cache : TokenCache) : Prop where
  linked : (cache.entries.map fun (account, _, stamp) => (stamp, account)).Perm cache.order
  accounts : (cache.entries.map (·.1)).Nodup
  stamps : (cache.order.map (·.1)).Nodup
  bounded : cache.size ≤ cache.capacity

theorem Shows.consistent {list : Shelf} (shows : cache.Shows list) : cache.Consistent := by
  obtain ⟨slots, holds, -, fits⟩ := shows
  refine ⟨?_, ?_, ?_, ?_⟩
  · have entries := holds.entries.map fun (account, _, stamp) => (stamp, account)
    rw [List.map_map] at entries
    rw [holds.order]
    exact entries
  · refine ((holds.entries.map (·.1)).nodup_iff).mpr ?_
    rw [List.map_map]
    exact List.pairwise_map.mpr holds.row.apart
  · rw [holds.order, List.map_map]
    exact List.pairwise_map.mpr (holds.row.rising.imp Nat.ne_of_lt)
  · rwa [holds.size]

/-- Whatever a store is asked for, and at whatever moments, it answers like a list in the order of
the last use with room for as many tokens, and for one at least. At the end its accounts and tokens
are those of the list, and its two maps are consistent. -/
theorem answers_like_list (capacity : Nat) (operations : List Operation) :
    let (findings, cache) := (empty capacity).performAll operations
    let (expected, list) := Shelf.performAll (max capacity 1) [] operations
    findings = expected ∧ (∀ account, cache.token? account = list.lookup account) ∧
      cache.size = list.length ∧ cache.size ≤ max capacity 1 ∧ cache.Consistent := by
  obtain ⟨findings, last, same⟩ := (Shows.empty capacity).performAll operations
  have consistent := last.consistent
  refine ⟨findings, last.token?, last.size, ?_, consistent⟩
  have bounded := consistent.bounded
  rwa [same] at bounded

end TokenCache

end SelfCheck
