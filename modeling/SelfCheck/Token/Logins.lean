import SelfCheck.Token.Cache

/-! Getting a token, with one login at a time for each account.

A caller that finds no fresh token takes a share in the account's gate. The callers of a gate go
through it one at a time in the order in which they came; whoever is in looks for a token again and
logs in only if there is still none. The gate is gone with the last caller that has a share in it.
-/

set_option autoImplicit false

namespace SelfCheck

/-- A caller at a gate. -/
structure Logins.Share where
  caller : Nat
  account : Account
  gate : Nat
  /-- The time, on the timer clock, at which the caller's login will have taken too long; none
  before it has begun one. -/
  deadline : Option Nat := none
  deriving DecidableEq, Repr

structure Logins where
  cache : TokenCache
  /-- The gate of each account that has one. -/
  gates : List (Account × Nat) := []
  /-- Gates are numbered as they are made. -/
  made : Nat := 0
  /-- In the order in which the callers came. -/
  shares : List Logins.Share := []
  deriving Repr

namespace Logins

def empty (capacity : Nat) : Logins := { cache := .empty capacity }

/-- The number of accounts with a login going on or waited for. -/
def pending (logins : Logins) : Nat := logins.gates.length

def share? (logins : Logins) (caller : Nat) : Option Share :=
  logins.shares.find? (·.caller = caller)

/-- Whether a share is the first one at its gate. -/
def isFirst (logins : Logins) (share : Share) : Bool :=
  (logins.shares.find? (·.gate = share.gate)).any (·.caller = share.caller)

/-- Whether a caller stands at its gate with nobody in front. -/
def mayEnter (logins : Logins) (caller : Nat) : Bool :=
  (logins.share? caller).any fun share => share.deadline.isNone && logins.isFirst share

/-- How many hold a gate: the table while it leads to the gate, and the callers with a share. -/
def holders (logins : Logins) (account : Account) (gate : Nat) : Nat :=
  (if logins.gates.lookup account = some gate then 1 else 0) +
    logins.shares.countP (·.gate = gate)

/-- A caller comes: it is served from the store, or takes a share in the account's gate. -/
def arrive (logins : Logins) (caller : Nat) (account : Account) (now : Time.Moment) :
    Option Token × Logins :=
  match logins.cache.get account now with
  | (some token, cache) => (some token, { logins with cache })
  | (none, cache) =>
    match logins.gates.lookup account with
    | some gate =>
      (none, { logins with cache, shares := logins.shares ++ [{ caller, account, gate }] })
    | none =>
      let gate := logins.made
      (none, {
        cache
        gates := logins.gates ++ [(account, gate)]
        made := gate + 1
        shares := logins.shares ++ [{ caller, account, gate }] })

/-- A caller gives up its share; a gate that nobody else holds is taken out of the table. -/
def leave (logins : Logins) (caller : Nat) : Logins :=
  match logins.share? caller with
  | none => logins
  | some share =>
    let shares := logins.shares.filter (·.caller ≠ caller)
    if logins.holders share.account share.gate ≤ 2 &&
        logins.gates.lookup share.account = some share.gate then
      { logins with shares, gates := TokenCache.without share.account logins.gates }
    else { logins with shares }

/-- The caller that stands first goes in: it is served from the store, or begins a login that has
to end by `deadline`. -/
def enter (logins : Logins) (share : Share) (now : Time.Moment) (deadline : Nat) :
    Option Token × Logins :=
  match logins.cache.get share.account now with
  | (some token, cache) => (some token, { logins with cache }.leave share.caller)
  | (none, cache) =>
    (none, { logins with
      cache
      shares := logins.shares.map fun other =>
        if other.caller = share.caller then { other with deadline := some deadline } else other })

/-- A login has ended; a token it gave is kept. The first part is the account that had to make
room. -/
def finish (logins : Logins) (share : Share) (result : Except PlatformError Token) :
    Option Account × Logins :=
  match result with
  | .ok token =>
    let (evicted, cache) := logins.cache.insert share.account token
    (evicted, { logins with cache }.leave share.caller)
  | .error _ => (none, logins.leave share.caller)

/-- The token of an account is not to be used any more. -/
def invalidate (logins : Logins) (account : Account) : Logins :=
  { logins with cache := logins.cache.remove account }

end Logins

end SelfCheck
