import SelfCheck.Token.Logins

/-! Which tokens the store can hand out.

Whatever is done to the store, it holds an account's token only because that token was put there for
that account, and it hands out no token that is stale.
-/

set_option autoImplicit false

namespace SelfCheck

/-- In a list whose members differ in some respect, members that agree in it are the same. -/
theorem eq_of_apart {α β : Type} {f : α → β} {l : List α} {a b : α}
    (apart : l.Pairwise (f · ≠ f ·)) (held : a ∈ l) (also : b ∈ l) (same : f a = f b) : a = b := by
  have all : ∀ ⦃x⦄, x ∈ l → ∀ ⦃y⦄, y ∈ l → f x = f y → x = y :=
    List.Pairwise.forall_of_forall_of_flip (fun _ _ _ => rfl)
      (apart.imp fun differs same => (differs same).elim)
      (apart.imp fun differs same => (differs same.symm).elim)
  exact all held also same

namespace TokenCache

variable {κ α : Type} [DecidableEq κ]

theorem lookup_without (key other : κ) (bindings : List (κ × α)) :
    (without key bindings).lookup other =
      if other = key then none else bindings.lookup other := by
  induction bindings with
  | nil => simp [without]
  | cons head rest ih =>
    obtain ⟨k, v⟩ := head
    -- The head may be dropped, or be the one looked up; it cannot be both.
    by_cases dropped : k = key
    · have shorter : without key ((k, v) :: rest) = without key rest := by
        simp [without, dropped]
      rw [shorter, ih]
      by_cases same : other = key
      · rw [if_pos same, if_pos same]
      · have differs : other ≠ k := fun h => same (h.trans dropped)
        rw [if_neg same, if_neg same, List.lookup_cons, beq_false_of_ne differs]
    · have kept : without key ((k, v) :: rest) = (k, v) :: without key rest := by
        simp [without, dropped]
      rw [kept, List.lookup_cons, List.lookup_cons, ih]
      by_cases first : other = k
      · have differs : other ≠ key := fun h => dropped (first.symm.trans h)
        simp only [if_neg differs]
      · rw [beq_false_of_ne first]

theorem lookup_of_lookup_without {key other : κ} {bindings : List (κ × α)} {value : α}
    (found : (without key bindings).lookup other = some value) :
    bindings.lookup other = some value := by
  rw [lookup_without] at found
  split at found
  · cases found
  · exact found

/-- The entries of a key replaced. -/
theorem lookup_replaced (key other : κ) (value : α) (bindings : List (κ × α)) :
    (bindings.map fun entry => if entry.1 = key then (key, value) else entry).lookup other =
      if other = key then (bindings.lookup key).map fun _ => value
      else bindings.lookup other := by
  induction bindings with
  | nil => simp
  | cons head rest ih =>
    obtain ⟨k, v⟩ := head
    rw [List.map_cons]
    by_cases hit : k = key
    · subst hit
      rw [if_pos rfl, List.lookup_cons, List.lookup_cons, List.lookup_cons, ih]
      by_cases same : other = k
      · simp [same]
      · simp [same, beq_false_of_ne same]
    · rw [if_neg hit, List.lookup_cons, List.lookup_cons, List.lookup_cons, ih]
      have missed : (key == k) = false := beq_false_of_ne fun h => hit h.symm
      by_cases same : other = k
      · simp [same, hit]
      · simp [beq_false_of_ne same, missed]

variable {cache : TokenCache} {account other : Account} {token : Token}

theorem token?_touch (cache : TokenCache) (account other : Account) :
    (cache.touch account).token? other = cache.token? other := by
  unfold touch
  cases entry : cache.entries.lookup account with
  | none => rfl
  | some held =>
    obtain ⟨token, last⟩ := held
    dsimp only [token?]
    rw [lookup_replaced]
    by_cases same : other = account
    · rw [if_pos same, same, entry]
      rfl
    · rw [if_neg same]

/-- Only fresh tokens are handed out, and only to the account that they are kept for. -/
theorem get_eq_some {now : Time.Moment} {left : TokenCache}
    (found : cache.get account now = (some token, left)) :
    cache.token? account = some token ∧ token.isStale now = false ∧ left = cache.touch account := by
  unfold get at found
  simp only [Prod.mk.injEq, Option.filter_eq_some_iff, Bool.not_eq_true'] at found
  obtain ⟨⟨held, fresh⟩, rfl⟩ := found
  exact ⟨held, fresh, rfl⟩

/-- The store has no token for an account that could be handed out now. -/
def Lacks (cache : TokenCache) (account : Account) (now : Time.Moment) : Prop :=
  ∀ token, cache.token? account = some token → token.isStale now = true

theorem lacks_iff {now : Time.Moment} :
    cache.Lacks account now ↔ (cache.get account now).1 = none := by
  simp [Lacks, get]

theorem get_of_fresh {now : Time.Moment} (held : cache.token? account = some token)
    (fresh : token.isStale now = false) :
    cache.get account now = (some token, cache.touch account) := by
  simp [get, held, fresh]

theorem get_of_lacks {now : Time.Moment} (lacks : cache.Lacks account now) :
    cache.get account now = (none, cache.touch account) :=
  Prod.ext (lacks_iff.mp lacks) rfl

theorem lacks_or_fresh (cache : TokenCache) (account : Account) (now : Time.Moment) :
    cache.Lacks account now ∨
      ∃ token, cache.token? account = some token ∧ token.isStale now = false := by
  cases found : (cache.get account now).1 with
  | none => exact .inl (lacks_iff.mpr found)
  | some token =>
    obtain ⟨held, fresh, -⟩ := get_eq_some (Prod.ext found rfl)
    exact .inr ⟨token, held, fresh⟩

/-- What is stale stays so. -/
theorem Lacks.later {now later : Time.Moment} (lacks : cache.Lacks account now)
    (after : now ≤ later) : cache.Lacks account later := by
  intro token held
  have stale := lacks token held
  simp only [Token.isStale, decide_eq_true_eq] at stale ⊢
  exact Int.le_trans stale after

theorem token?_of_remove (held : (cache.remove account).token? other = some token) :
    cache.token? other = some token := by
  unfold remove at held
  split at held
  · exact held
  · obtain ⟨entry, found, rfl⟩ := Option.map_eq_some_iff.mp held
    exact Option.map_eq_some_iff.mpr ⟨entry, lookup_of_lookup_without found, rfl⟩

theorem token?_of_makeRoom (held : cache.makeRoom.2.token? other = some token) :
    cache.token? other = some token := by
  unfold makeRoom at held
  split at held
  · exact held
  · split at held
    · exact held
    · obtain ⟨entry, found, rfl⟩ := Option.map_eq_some_iff.mp held
      exact Option.map_eq_some_iff.mpr ⟨entry, lookup_of_lookup_without found, rfl⟩

theorem token?_remove_self (cache : TokenCache) (account : Account) :
    (cache.remove account).token? account = none := by
  unfold remove token?
  split
  · next absent => rw [absent, Option.map_none]
  · rw [lookup_without, if_pos rfl, Option.map_none]

theorem token?_remove_of_ne (differs : other ≠ account) :
    (cache.remove account).token? other = cache.token? other := by
  unfold remove
  split
  · rfl
  · simp [token?, lookup_without, differs]

theorem token?_makeRoom (spared : cache.makeRoom.1 ≠ some other) :
    cache.makeRoom.2.token? other = cache.token? other := by
  unfold makeRoom at spared ⊢
  split
  · rfl
  · next full =>
    rw [if_neg full] at spared
    split
    · rfl
    · next stamp oldest later ordered =>
      have differs : other ≠ oldest := by
        rintro rfl
        simp [ordered] at spared
      simp [token?, lookup_without, differs]

theorem token?_insert_self (cache : TokenCache) (account : Account) (token : Token) :
    (cache.insert account token).2.token? account = some token := by
  simp [insert, token?]

/-- Of the other accounts only the one that makes room loses its token. -/
theorem token?_insert_of_ne {kept : Token} (differs : other ≠ account)
    (spared : (cache.insert account kept).1 ≠ some other) :
    (cache.insert account kept).2.token? other = cache.token? other := by
  have room : (cache.remove account).makeRoom.1 ≠ some other := spared
  calc (cache.insert account kept).2.token? other
      = (cache.remove account).makeRoom.2.token? other := by
        simp [insert, token?, List.lookup_cons, beq_false_of_ne differs]
    _ = (cache.remove account).token? other := token?_makeRoom room
    _ = cache.token? other := token?_remove_of_ne differs

/-- A token in the store is the one just put there, or was there before. -/
theorem token?_of_insert {kept : Token}
    (held : (cache.insert account kept).2.token? other = some token) :
    (other = account ∧ token = kept) ∨ cache.token? other = some token := by
  unfold insert at held
  dsimp only [token?] at held
  rw [List.lookup_cons] at held
  by_cases same : other = account
  · subst same
    simp only [beq_self_eq_true, Option.map_some, Option.some.injEq] at held
    exact .inl ⟨rfl, held.symm⟩
  · rw [beq_false_of_ne same] at held
    exact .inr (token?_of_remove (token?_of_makeRoom held))

end TokenCache

namespace Logins

variable {logins left : Logins} {caller : Nat} {account : Account} {now : Time.Moment}
  {token : Token} {share : Share}

/-- What logins have become by the doing of one caller: the shares of the others are as they were,
and the tokens are those that were there, but for one that may have been given. -/
structure Follows (caller : Nat) (given : Option (Account × Token)) (before after : Logins) :
    Prop where
  tokens : ∀ account token, after.cache.token? account = some token →
    before.cache.token? account = some token ∨ given = some (account, token)
  others : ∀ share ∈ after.shares, share.caller ≠ caller → share ∈ before.shares

/-- A caller has no share. -/
def Without (logins : Logins) (caller : Nat) : Prop :=
  ∀ share ∈ logins.shares, share.caller ≠ caller

theorem Follows.refl (caller : Nat) (given : Option (Account × Token)) (logins : Logins) :
    logins.Follows caller given logins :=
  ⟨fun _ _ held => .inl held, fun _ member _ => member⟩

theorem Follows.trans {caller : Nat} {given : Option (Account × Token)}
    {before middle after : Logins} (first : before.Follows caller given middle)
    (second : middle.Follows caller given after) : before.Follows caller given after where
  tokens := by
    intro account token held
    rcases second.tokens account token held with old | new
    · exact first.tokens account token old
    · exact .inr new
  others := by
    intro share member differs
    exact first.others share (second.others share member differs) differs

theorem leave_cache (logins : Logins) (caller : Nat) :
    (logins.leave caller).cache = logins.cache := by
  unfold leave
  split
  · rfl
  · dsimp only
    split <;> rfl

theorem mem_leave (member : share ∈ (logins.leave caller).shares) :
    share ∈ logins.shares ∧ share.caller ≠ caller := by
  unfold leave at member
  split at member
  · next absent =>
    refine ⟨member, ?_⟩
    simpa using List.find?_eq_none.mp absent share member
  · have kept : share ∈ logins.shares.filter (·.caller ≠ caller) := by
      dsimp only at member
      split at member <;> exact member
    simpa using kept

theorem leave_without (logins : Logins) (caller : Nat) : (logins.leave caller).Without caller :=
  fun _ member => (mem_leave member).2

theorem leave_follows (logins : Logins) (caller : Nat) (given : Option (Account × Token)) :
    logins.Follows caller given (logins.leave caller) where
  tokens := by
    intro account token held
    rw [leave_cache] at held
    exact .inl held
  others := fun _ member _ => (mem_leave member).1

/-- What a caller that comes gets from the store is fresh and its account's own. -/
theorem arrive_served (served : logins.arrive caller account now = (some token, left)) :
    logins.cache.token? account = some token ∧ token.isStale now = false ∧
      logins.Follows caller none left ∧ left.shares = logins.shares := by
  unfold arrive at served
  split at served
  · next found =>
    cases served
    obtain ⟨held, fresh, rfl⟩ := TokenCache.get_eq_some found
    refine ⟨held, fresh, ⟨?_, fun _ member _ => member⟩, rfl⟩
    intro other token held
    rw [TokenCache.token?_touch] at held
    exact .inl held
  · split at served <;> cases served

/-- A caller that is not served takes a share for its account, without a login so far. -/
theorem arrive_unserved (unserved : logins.arrive caller account now = (none, left)) :
    logins.Follows caller none left ∧ ∀ share ∈ left.shares,
      share ∈ logins.shares ∨ share.account = account ∧ share.deadline = none := by
  -- The same whether the account has a gate already or gets one.
  have stands (gates : List (Account × Nat)) (made gate : Nat) :
      let left : Logins := {
        cache := logins.cache.touch account, gates, made
        shares := logins.shares ++ [{ caller, account, gate }] }
      logins.Follows caller none left ∧ ∀ share ∈ left.shares,
        share ∈ logins.shares ∨ share.account = account ∧ share.deadline = none := by
    refine ⟨⟨?_, ?_⟩, ?_⟩
    · intro other token held
      rw [TokenCache.token?_touch] at held
      exact .inl held
    · intro share member differs
      rcases List.mem_append.mp member with old | new
      · exact old
      · rw [List.mem_singleton.mp new] at differs
        exact (differs rfl).elim
    · intro share member
      rcases List.mem_append.mp member with old | new
      · exact .inl old
      · rw [List.mem_singleton.mp new]
        exact .inr ⟨rfl, rfl⟩
  unfold arrive at unserved
  split at unserved
  · cases unserved
  · next cache found =>
    obtain rfl : logins.cache.touch account = cache := congrArg Prod.snd found
    split at unserved
    · cases unserved
      exact stands _ _ _
    · cases unserved
      exact stands _ _ _

theorem enter_served {deadline : Nat}
    (served : logins.enter share now deadline = (some token, left)) :
    logins.cache.token? share.account = some token ∧ token.isStale now = false ∧
      logins.Follows share.caller none left ∧ left.Without share.caller := by
  unfold enter at served
  split at served
  · next found =>
    cases served
    obtain ⟨held, fresh, rfl⟩ := TokenCache.get_eq_some found
    refine ⟨held, fresh, ⟨?_, ?_⟩, leave_without _ _⟩
    · intro other token held
      rw [leave_cache, TokenCache.token?_touch] at held
      exact .inl held
    · intro other member _
      exact (mem_leave member).1
  · cases served

/-- A caller that goes in and is not served begins a login; its share is for the same account. -/
theorem enter_unserved {deadline : Nat}
    (unserved : logins.enter share now deadline = (none, left)) :
    logins.Follows share.caller none left ∧
      ∀ later ∈ left.shares, ∃ before ∈ logins.shares,
        later.caller = before.caller ∧ later.account = before.account := by
  unfold enter at unserved
  split at unserved
  · cases unserved
  · next cache found =>
    obtain rfl : logins.cache.touch share.account = cache := congrArg Prod.snd found
    cases unserved
    refine ⟨⟨?_, ?_⟩, ?_⟩
    · intro other token held
      rw [TokenCache.token?_touch] at held
      exact .inl held
    · intro other member differs
      obtain ⟨before, old, rfl⟩ := List.mem_map.mp member
      by_cases own : before.caller = share.caller
      · rw [if_pos own] at differs
        exact (differs own).elim
      · rw [if_neg own]
        exact old
    · intro other member
      obtain ⟨before, old, rfl⟩ := List.mem_map.mp member
      refine ⟨before, old, ?_⟩
      split
      · exact ⟨rfl, rfl⟩
      · exact ⟨rfl, rfl⟩

/-- A login that has ended leaves its token with its account, and its caller without a share. -/
theorem finish_follows (logins : Logins) (share : Share) (result : Except PlatformError Token) :
    logins.Follows share.caller (result.toOption.map fun token => (share.account, token))
        (logins.finish share result).2 ∧
      (logins.finish share result).2.Without share.caller := by
  cases result with
  | error error => exact ⟨leave_follows _ _ _, leave_without _ _⟩
  | ok token =>
    refine ⟨⟨?_, ?_⟩, leave_without _ _⟩
    · intro other held kept
      rw [finish, leave_cache] at kept
      rcases TokenCache.token?_of_insert kept with ⟨rfl, rfl⟩ | before
      · exact .inr rfl
      · exact .inl before
    · intro other member _
      exact (mem_leave member).1

/-! What is served or kept is in the store from then on. -/

theorem arrive_keeps (served : logins.arrive caller account now = (some token, left)) :
    left.cache.token? account = some token := by
  unfold arrive at served
  split at served
  · next found =>
    cases served
    obtain ⟨held, -, rfl⟩ := TokenCache.get_eq_some found
    rw [TokenCache.token?_touch, held]
  · split at served <;> cases served

theorem enter_keeps {deadline : Nat}
    (served : logins.enter share now deadline = (some token, left)) :
    left.cache.token? share.account = some token := by
  unfold enter at served
  split at served
  · next found =>
    cases served
    obtain ⟨held, -, rfl⟩ := TokenCache.get_eq_some found
    rw [leave_cache, TokenCache.token?_touch, held]
  · cases served

theorem finish_keeps (logins : Logins) (share : Share) (token : Token) :
    (logins.finish share (.ok token)).2.cache.token? share.account = some token := by
  rw [finish, leave_cache]
  exact TokenCache.token?_insert_self _ _ _

theorem invalidate_follows (logins : Logins) (caller : Nat) (account : Account) :
    logins.Follows caller none (logins.invalidate account) where
  tokens := fun _ _ held => .inl (TokenCache.token?_of_remove held)
  others := fun _ member _ => member

end Logins

end SelfCheck
