import SelfCheck.Proofs.Token

/-! The callers of an account stand in one queue, and only the first of them can have a login going.

All callers of an account share one gate as long as any of them is there: the table leads to it, and
whoever leaves it takes it out of the table only as the last. So the first at the gate is the first
of the account's callers.
-/

set_option autoImplicit false

namespace SelfCheck.Logins

/-- The shares for an account, in the order in which their callers came. -/
def queue (logins : Logins) (account : Account) : List Share :=
  logins.shares.filter (·.account = account)

/-- No login for an account is going on. -/
def Idle (logins : Logins) (account : Account) : Prop :=
  ∀ share ∈ logins.queue account, share.deadline = none

/-- Logins whose callers stand in one queue for each account. -/
structure Orderly (logins : Logins) : Prop where
  callers : logins.shares.Pairwise (·.caller ≠ ·.caller)
  gated : ∀ share ∈ logins.shares, logins.gates.lookup share.account = some share.gate
  apart : ∀ one other gate, logins.gates.lookup one = some gate →
    logins.gates.lookup other = some gate → one = other
  numbered : ∀ account gate, logins.gates.lookup account = some gate → gate < logins.made
  single : ∀ account, ∀ share ∈ (logins.queue account).tail, share.deadline = none

variable {logins left : Logins} {caller : Nat} {account other : Account} {now : Time.Moment}
  {share member : Share}

theorem mem_queue :
    share ∈ logins.queue account ↔ share ∈ logins.shares ∧ share.account = account := by
  simp [queue]

theorem mem_queue_self (held : share ∈ logins.shares) : share ∈ logins.queue share.account :=
  mem_queue.mpr ⟨held, rfl⟩

theorem share?_eq_some (found : logins.share? caller = some share) :
    share ∈ logins.shares ∧ share.caller = caller :=
  ⟨List.mem_of_find?_eq_some found, by simpa using List.find?_some found⟩

namespace Orderly

theorem empty (cache : TokenCache) : Orderly { cache } where
  callers := .nil
  gated := by simp
  apart := by simp
  numbered := by simp
  single := by simp [queue]

theorem caller_inj (orderly : logins.Orderly) (held : share ∈ logins.shares)
    (also : member ∈ logins.shares) (same : share.caller = member.caller) : share = member :=
  eq_of_apart orderly.callers held also same

theorem share?_eq (orderly : logins.Orderly) (held : share ∈ logins.shares) :
    logins.share? share.caller = some share := by
  cases found : logins.share? share.caller with
  | none => exact (List.find?_eq_none.mp found share held (by simp)).elim
  | some other =>
    obtain ⟨known, same⟩ := share?_eq_some found
    rw [orderly.caller_inj known held same]

/-- Callers stand at the same gate just when they want a token of the same account. -/
theorem gate_eq_iff (orderly : logins.Orderly) (held : share ∈ logins.shares)
    (also : member ∈ logins.shares) :
    member.gate = share.gate ↔ member.account = share.account := by
  have one := orderly.gated share held
  have two := orderly.gated member also
  constructor
  · intro same
    rw [same] at two
    exact orderly.apart _ _ _ two one
  · intro same
    rw [same, one] at two
    exact (Option.some.inj two).symm

/-- The first at a gate is the first of the account's queue. -/
theorem isFirst_iff (orderly : logins.Orderly) (held : share ∈ logins.shares) :
    logins.isFirst share = true ↔ (logins.queue share.account).head? = some share := by
  have same : logins.shares.filter (·.gate = share.gate) = logins.queue share.account := by
    refine List.filter_congr fun member also => ?_
    rw [decide_eq_decide]
    exact orderly.gate_eq_iff held also
  unfold isFirst
  rw [← List.head?_filter, same]
  constructor
  · intro first
    obtain ⟨front, found, mine⟩ := (Option.any_eq_true _ _).mp first
    have known := (mem_queue.mp (List.mem_of_head? found)).1
    rw [found, orderly.caller_inj known held (by simpa using mine)]
  · intro first
    rw [first]
    simp

theorem mayEnter_iff (orderly : logins.Orderly) (held : share ∈ logins.shares) :
    logins.mayEnter share.caller = true ↔
      share.deadline = none ∧ (logins.queue share.account).head? = some share := by
  simp [mayEnter, orderly.share?_eq held, orderly.isFirst_iff held]

/-- Whoever has a login going is the first of its queue. -/
theorem first_of_begun (orderly : logins.Orderly) (held : share ∈ logins.shares)
    (begun : share.deadline.isSome = true) :
    (logins.queue share.account).head? = some share := by
  have mine := mem_queue_self held
  cases queue : logins.queue share.account with
  | nil => simp [queue] at mine
  | cons front rest =>
    rw [queue] at mine
    rcases List.mem_cons.mp mine with rfl | behind
    · rfl
    · rw [orderly.single share.account share (by rw [queue]; exact behind)] at begun
      cases begun

/-- Two logins for an account that are going on are one. -/
theorem one_login (orderly : logins.Orderly) (held : share ∈ logins.shares)
    (also : member ∈ logins.shares) (begun : share.deadline.isSome = true)
    (begun' : member.deadline.isSome = true) (same : share.account = member.account) :
    share = member := by
  have first := orderly.first_of_begun held begun
  rw [same, orderly.first_of_begun also begun'] at first
  exact (Option.some.inj first).symm

end Orderly

/-! Leaving. -/

theorem leave_shares (logins : Logins) (caller : Nat) :
    (logins.leave caller).shares = logins.shares.filter (·.caller ≠ caller) := by
  unfold leave
  cases found : logins.share? caller with
  | none =>
    refine (List.filter_eq_self.mpr fun share held => ?_).symm
    simpa using List.find?_eq_none.mp found share held
  | some share =>
    dsimp only
    split <;> rfl

theorem leave_made (logins : Logins) (caller : Nat) : (logins.leave caller).made = logins.made := by
  unfold leave
  split
  · rfl
  · dsimp only
    split <;> rfl

theorem lookup_of_leave {gate : Nat}
    (found : (logins.leave caller).gates.lookup account = some gate) :
    logins.gates.lookup account = some gate := by
  unfold leave at found
  split at found
  · exact found
  · dsimp only at found
    split at found
    · exact TokenCache.lookup_of_lookup_without found
    · exact found

theorem queue_leave (logins : Logins) (caller : Nat) (account : Account) :
    (logins.leave caller).queue account = (logins.queue account).filter (·.caller ≠ caller) := by
  rw [queue, leave_shares, queue, List.filter_filter, List.filter_filter]
  exact List.filter_congr fun share _ => Bool.and_comm _ _

/-- A gate in the table that has two holders at most has one share. -/
theorem eq_of_holders_le {gate : Nat} (few : logins.holders account gate ≤ 2)
    (led : logins.gates.lookup account = some gate) (held : share ∈ logins.shares)
    (also : member ∈ logins.shares) (mine : share.gate = gate) (same : member.gate = gate) :
    member = share := by
  have alone : (logins.shares.filter (·.gate = gate)).length ≤ 1 := by
    rw [holders, if_pos led, List.countP_eq_length_filter] at few
    omega
  have one : share ∈ logins.shares.filter (·.gate = gate) := by simp [held, mine]
  have two : member ∈ logins.shares.filter (·.gate = gate) := by simp [also, same]
  obtain ⟨only, single⟩ := List.length_eq_one_iff.mp
    (Nat.le_antisymm alone (List.length_pos_of_mem one))
  rw [single, List.mem_singleton] at one two
  rw [one, two]

/-- The gate of everybody who stays is still in the table. -/
theorem Orderly.lookup_leave (orderly : logins.Orderly) (stays : member ∈ logins.shares)
    (differs : member.caller ≠ caller) :
    (logins.leave caller).gates.lookup member.account = some member.gate := by
  have led := orderly.gated member stays
  unfold leave
  cases found : logins.share? caller with
  | none => exact led
  | some share =>
    dsimp only
    split
    · next last =>
      obtain ⟨held, mine⟩ := share?_eq_some found
      rw [Bool.and_eq_true, decide_eq_true_eq, decide_eq_true_eq] at last
      dsimp only
      rw [TokenCache.lookup_without, if_neg ?_]
      · exact led
      · intro same
        have alike := (orderly.gate_eq_iff held stays).mpr same
        have alone := eq_of_holders_le last.1 last.2 held stays rfl alike
        exact differs (alone ▸ mine)
    · exact led

theorem Orderly.leave (orderly : logins.Orderly) (caller : Nat) :
    (logins.leave caller).Orderly where
  callers := by
    rw [leave_shares]
    exact orderly.callers.filter _
  gated := by
    intro share held
    obtain ⟨stays, differs⟩ := mem_leave held
    exact orderly.lookup_leave stays differs
  apart := fun one other gate here there =>
    orderly.apart one other gate (lookup_of_leave here) (lookup_of_leave there)
  numbered := by
    intro account gate found
    rw [leave_made]
    exact orderly.numbered account gate (lookup_of_leave found)
  single := by
    intro account share behind
    rw [queue_leave] at behind
    exact orderly.single account share (List.filter_sublist.tail.subset behind)

/-! What is in the store does not matter to the queues. -/

theorem Orderly.withCache (orderly : logins.Orderly) (cache : TokenCache) :
    Orderly { logins with cache } :=
  ⟨orderly.callers, orderly.gated, orderly.apart, orderly.numbered, orderly.single⟩

/-! Coming. -/

/-- A caller that is served leaves everything as it was but the order of the store. -/
theorem arrive_of_fresh (caller : Nat) {token : Token}
    (held : logins.cache.token? account = some token) (fresh : token.isStale now = false) :
    logins.arrive caller account now =
      (some token, { logins with cache := logins.cache.touch account }) := by
  simp [arrive, TokenCache.get_of_fresh held fresh]

/-- A caller that is not served stands behind the others, at the gate that the table leads to. -/
theorem arrive_of_lacks (caller : Nat) (lacks : logins.cache.Lacks account now) :
    ∃ gate left, logins.arrive caller account now = (none, left) ∧
      left.shares = logins.shares ++ [⟨caller, account, gate, none⟩] ∧
      left.cache = logins.cache.touch account ∧
      (logins.gates.lookup account = some gate ∧ left.gates = logins.gates ∧
          left.made = logins.made ∨
        logins.gates.lookup account = none ∧ gate = logins.made ∧
          left.gates = logins.gates ++ [(account, gate)] ∧ left.made = gate + 1) := by
  unfold arrive
  rw [TokenCache.get_of_lacks lacks]
  cases led : logins.gates.lookup account with
  | some gate => exact ⟨gate, _, rfl, rfl, rfl, .inl ⟨rfl, rfl, rfl⟩⟩
  | none => exact ⟨logins.made, _, rfl, rfl, rfl, .inr ⟨rfl, rfl, rfl, rfl⟩⟩

theorem lookup_concat {gate : Nat} (absent : logins.gates.lookup account = none) :
    (logins.gates ++ [(account, gate)]).lookup other =
      if other = account then some gate else logins.gates.lookup other := by
  rw [List.lookup_append]
  by_cases same : other = account
  · simp [same, absent]
  · simp [same, List.lookup_cons, beq_false_of_ne same]

theorem Orderly.join (orderly : logins.Orderly) (free : logins.Without caller)
    (lacks : logins.cache.Lacks account now) : (logins.arrive caller account now).2.Orderly := by
  obtain ⟨gate, left, joins, shares, -, table⟩ := arrive_of_lacks caller lacks
  rw [joins]
  -- The table is the same as before but for a new gate of the account, numbered above all others.
  have led (other : Account) : left.gates.lookup other =
      if other = account then some gate else logins.gates.lookup other := by
    rcases table with ⟨known, same, -⟩ | ⟨absent, -, same, -⟩
    · rw [same]
      split
      · next mine => rw [mine, known]
      · rfl
    · rw [same, lookup_concat absent]
  have fits : (logins.gates.lookup account = some gate ∨ gate = logins.made) ∧
      gate < left.made ∧ logins.made ≤ left.made := by
    rcases table with ⟨known, -, same⟩ | ⟨-, rfl, -, same⟩
    · rw [same]
      exact ⟨.inl known, orderly.numbered _ _ known, Nat.le_refl _⟩
    · omega
  constructor
  · rw [shares, List.pairwise_append]
    refine ⟨orderly.callers, List.pairwise_singleton _ _, ?_⟩
    intro old held new mine
    rw [List.mem_singleton.mp mine]
    exact free old held
  · intro share held
    rw [shares, List.mem_append, List.mem_singleton] at held
    rw [led]
    rcases held with old | rfl
    · have known := orderly.gated share old
      split
      · next mine =>
        rw [mine] at known
        rcases table with ⟨known', -⟩ | ⟨absent, -⟩
        · exact known'.symm.trans known
        · rw [known] at absent
          cases absent
      · exact known
    · exact if_pos rfl
  · -- A gate that is new belongs to nobody else; one that is not was the account's before.
    have alone (one : Account) (strange : one ≠ account)
        (found : logins.gates.lookup one = some gate) : False := by
      rcases fits.1 with known | rfl
      · exact strange (orderly.apart _ _ _ found known)
      · exact Nat.lt_irrefl _ (orderly.numbered _ _ found)
    intro one other number here there
    rw [led] at here there
    split at here <;> split at there
    · next mine yours => rw [mine, yours]
    · next mine strange =>
      cases here
      exact (alone other strange there).elim
    · next strange mine =>
      cases there
      exact (alone one strange here).elim
    · exact orderly.apart _ _ _ here there
  · intro one number found
    rw [led] at found
    split at found
    · cases found
      exact fits.2.1
    · exact Nat.lt_of_lt_of_le (orderly.numbered _ _ found) fits.2.2
  · intro one share behind
    rw [queue, shares, List.filter_append] at behind
    change share ∈ (logins.queue one ++ _).tail at behind
    cases queued : logins.queue one with
    | nil =>
      rw [queued, List.nil_append] at behind
      have member := List.mem_of_mem_tail behind
      rw [List.mem_singleton.mp (List.mem_filter.mp member).1]
    | cons front rest =>
      rw [queued, List.cons_append, List.tail_cons, List.mem_append] at behind
      rcases behind with old | new
      · exact orderly.single one share (by rw [queued]; exact old)
      · rw [List.mem_singleton.mp (List.mem_filter.mp new).1]

theorem Orderly.arrive (orderly : logins.Orderly) (free : logins.Without caller)
    (account : Account) (now : Time.Moment) : (logins.arrive caller account now).2.Orderly := by
  rcases logins.cache.lacks_or_fresh account now with lacks | ⟨token, held, fresh⟩
  · exact orderly.join free lacks
  · rw [arrive_of_fresh caller held fresh]
    exact orderly.withCache _

/-! Going in. -/

/-- A share after a caller has begun its login: that of the caller has a deadline. -/
def Share.begun (caller deadline : Nat) (share : Share) : Share :=
  if share.caller = caller then { share with deadline := some deadline } else share

@[simp] theorem Share.begun_caller (caller deadline : Nat) (share : Share) :
    (share.begun caller deadline).caller = share.caller := by
  unfold begun
  split <;> rfl

@[simp] theorem Share.begun_account (caller deadline : Nat) (share : Share) :
    (share.begun caller deadline).account = share.account := by
  unfold begun
  split <;> rfl

theorem Share.begun_gate (caller deadline : Nat) (share : Share) :
    (share.begun caller deadline).gate = share.gate := by
  unfold begun
  split <;> rfl

theorem Share.begun_of_ne {deadline : Nat} (differs : share.caller ≠ caller) :
    share.begun caller deadline = share :=
  if_neg differs

theorem enter_of_fresh (deadline : Nat) {token : Token}
    (held : logins.cache.token? share.account = some token) (fresh : token.isStale now = false) :
    logins.enter share now deadline =
      (some token,
        leave { logins with cache := logins.cache.touch share.account } share.caller) := by
  simp [enter, TokenCache.get_of_fresh held fresh]

theorem enter_of_lacks (deadline : Nat) (lacks : logins.cache.Lacks share.account now) :
    logins.enter share now deadline =
      (none, { logins with
        cache := logins.cache.touch share.account
        shares := logins.shares.map (Share.begun share.caller deadline) }) := by
  simp only [enter, TokenCache.get_of_lacks lacks]
  rfl

theorem queue_begun (logins : Logins) (cache : TokenCache) (caller deadline : Nat)
    (account : Account) :
    queue { logins with cache, shares := logins.shares.map (Share.begun caller deadline) } account =
      (logins.queue account).map (Share.begun caller deadline) := by
  simp [queue, List.filter_map, Function.comp_def]

/-- The first of a queue is not behind itself. -/
theorem Orderly.not_mem_tail (orderly : logins.Orderly)
    (first : (logins.queue account).head? = some share) : share ∉ (logins.queue account).tail := by
  have apart := orderly.callers.filter (·.account = account)
  change (logins.queue account).Pairwise _ at apart
  obtain ⟨rest, queue⟩ := List.head?_eq_some_iff.mp first
  rw [queue] at apart ⊢
  exact fun behind => (List.pairwise_cons.mp apart).1 share behind rfl

theorem Orderly.begin (orderly : logins.Orderly) (held : share ∈ logins.shares)
    (first : (logins.queue share.account).head? = some share) (cache : TokenCache)
    (deadline : Nat) :
    Orderly { logins with
      cache, shares := logins.shares.map (Share.begun share.caller deadline) } where
  callers := by simpa [List.pairwise_map] using orderly.callers
  gated := by
    intro member mapped
    obtain ⟨before, also, rfl⟩ := List.mem_map.mp mapped
    rw [Share.begun_account, Share.begun_gate]
    exact orderly.gated before also
  apart := orderly.apart
  numbered := orderly.numbered
  single := by
    intro account member behind
    rw [queue_begun, ← List.map_tail] at behind
    obtain ⟨before, old, rfl⟩ := List.mem_map.mp behind
    have quiet := orderly.single account before old
    obtain ⟨also, mine⟩ := mem_queue.mp (List.mem_of_mem_tail old)
    rw [Share.begun_of_ne, quiet]
    -- The caller's own share is the first, so it is not behind anybody.
    intro same
    obtain rfl := orderly.caller_inj also held same
    rw [mine] at first
    exact orderly.not_mem_tail first old

theorem Orderly.enter (orderly : logins.Orderly) (found : logins.share? caller = some share)
    (turn : logins.mayEnter caller = true) (now : Time.Moment) (deadline : Nat) :
    (logins.enter share now deadline).2.Orderly := by
  obtain ⟨held, rfl⟩ := share?_eq_some found
  rcases logins.cache.lacks_or_fresh share.account now with lacks | ⟨token, known, fresh⟩
  · rw [enter_of_lacks deadline lacks]
    exact orderly.begin held ((orderly.mayEnter_iff held).mp turn).2 _ _
  · rw [enter_of_fresh deadline known fresh]
    exact (orderly.withCache _).leave _

/-! The end of a login. -/

theorem finish_eq (logins : Logins) (share : Share) (result : Except PlatformError Token) :
    ∃ cache, (logins.finish share result).2 = leave { logins with cache } share.caller := by
  cases result with
  | error error => exact ⟨logins.cache, rfl⟩
  | ok token => exact ⟨_, rfl⟩

theorem Orderly.finish (orderly : logins.Orderly) (share : Share)
    (result : Except PlatformError Token) : (logins.finish share result).2.Orderly := by
  obtain ⟨cache, same⟩ := finish_eq logins share result
  rw [same]
  exact (orderly.withCache cache).leave _

end SelfCheck.Logins
