import SelfCheck.Platform
import SelfCheck.Sorted

/-! A bounded store of tokens.

Each entry has the stamp of its last use, and an index leads from stamps to accounts. When the
store is full, the entry with the smallest stamp makes room. Stale tokens stay until they are
replaced, but they are not handed out.
-/

set_option autoImplicit false

namespace SelfCheck

structure TokenCache where
  capacity : Nat
  entries : List (Account × Token × Nat) := []
  /-- In the order of the stamps. -/
  order : List (Nat × Account) := []
  /-- The last stamp given. -/
  lastStamp : Nat := 0
  capacity_pos : 0 < capacity
  deriving Repr

namespace TokenCache

/-- A store has room for one token at least. -/
def empty (capacity : Nat) : TokenCache :=
  { capacity := max capacity 1, capacity_pos := Nat.le_max_right .. }

def size (cache : TokenCache) : Nat := cache.entries.length

def contains (cache : TokenCache) (account : Account) : Bool :=
  (cache.entries.lookup account).isSome

/-- The token of an account, stale or not. -/
def token? (cache : TokenCache) (account : Account) : Option Token :=
  (cache.entries.lookup account).map (·.1)

def without {κ α : Type} [DecidableEq κ] (key : κ) (bindings : List (κ × α)) : List (κ × α) :=
  bindings.filter (·.1 ≠ key)

/-- Use an account's entry now, if there is one. -/
def touch (cache : TokenCache) (account : Account) : TokenCache :=
  let stamp := cache.lastStamp + 1
  match cache.entries.lookup account with
  | none => { cache with lastStamp := stamp }
  | some (token, last) =>
    { cache with
      entries := cache.entries.map fun entry =>
        if entry.1 = account then (account, token, stamp) else entry
      order := Sorted.put stamp account (without last cache.order)
      lastStamp := stamp }

/-- The token of an account unless it is stale; the entry counts as used either way. -/
def get (cache : TokenCache) (account : Account) (now : Time.Moment) :
    Option Token × TokenCache :=
  ((cache.token? account).filter fun token => !token.isStale now, cache.touch account)

/-- Drop an account's entry. -/
def remove (cache : TokenCache) (account : Account) : TokenCache :=
  match cache.entries.lookup account with
  | none => cache
  | some (_, last) =>
    { cache with
      entries := without account cache.entries
      order := without last cache.order }

/-- Drop an account's entry; the first part is whether there was one. -/
def invalidate (cache : TokenCache) (account : Account) : Bool × TokenCache :=
  (cache.contains account, cache.remove account)

/-- Drop the entry that was not used for longest when there is no room for another one. -/
def makeRoom (cache : TokenCache) : Option Account × TokenCache :=
  if cache.size < cache.capacity then (none, cache)
  else match cache.order with
    | [] => (none, cache)
    | (_, oldest) :: later =>
      (some oldest, { cache with entries := without oldest cache.entries, order := later })

/-- Keep a token, in place of the account's former one; the first part is the account that had to
make room. -/
def insert (cache : TokenCache) (account : Account) (token : Token) :
    Option Account × TokenCache :=
  let (evicted, cache) := (cache.remove account).makeRoom
  let stamp := cache.lastStamp + 1
  (evicted,
    { cache with
      entries := (account, token, stamp) :: cache.entries
      order := Sorted.put stamp account cache.order
      lastStamp := stamp })

theorem capacity_touch (cache : TokenCache) (account : Account) :
    (cache.touch account).capacity = cache.capacity := by
  simp only [touch]
  split <;> rfl

/-- A store as listings show it. -/
def listing (cache : TokenCache) : String :=
  "TokenCache \x7b capacity: " ++ toString cache.capacity ++ ", len: " ++ toString cache.size ++
    " \x7d"

end TokenCache

end SelfCheck
