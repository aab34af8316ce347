import SelfCheck.Proofs.Token.Course

/-! An account has a gate just as long as somebody needs it.

Whoever has found no token and has not done anything since, waits or logs in. The table has one gate
for each account that somebody waits or logs in for, and no others: the last who leaves takes the
gate along, whether its login was accepted, failed or never ended.
-/

set_option autoImplicit false

namespace SelfCheck.Logins

variable {logins after : Logins} {past : List Entry} {now : Time.Moment} {happening : Happening}
  {caller own gate : Nat} {account : Account} {share : Share}

/-- Logins whose table has one gate for each account that somebody has a share for. -/
structure Tended (logins : Logins) : Prop extends Orderly logins where
  once : (logins.gates.map (·.1)).Nodup
  used : ∀ binding ∈ logins.gates, ∃ share ∈ logins.shares, share.account = binding.1

namespace Tended

theorem empty (cache : TokenCache) : Tended { cache } where
  toOrderly := .empty cache
  once := .nil
  used := by simp

theorem withCache (tended : logins.Tended) (cache : TokenCache) : Tended { logins with cache } :=
  ⟨tended.toOrderly.withCache cache, tended.once, tended.used⟩

/-- The accounts in the table are those of the shares. -/
theorem mem_gates (tended : logins.Tended) :
    account ∈ logins.gates.map (·.1) ↔ ∃ share ∈ logins.shares, share.account = account := by
  constructor
  · intro listed
    obtain ⟨binding, member, rfl⟩ := List.mem_map.mp listed
    exact tended.used binding member
  · rintro ⟨share, held, rfl⟩
    obtain ⟨front, back, table, -⟩ := List.lookup_eq_some_iff.mp (tended.gated share held)
    simp [table]

end Tended

/-- A gate that more than the table and one caller hold is needed by another caller. -/
theorem Orderly.exists_other (orderly : logins.Orderly) (held : share ∈ logins.shares)
    (many : ¬logins.holders share.account share.gate ≤ 2) :
    ∃ other ∈ logins.shares, other.account = share.account ∧ other.caller ≠ share.caller := by
  rw [holders, if_pos (orderly.gated share held), List.countP_eq_length_filter] at many
  have apart := orderly.callers.filter (·.gate = share.gate)
  have alike : ∀ other ∈ logins.shares.filter (·.gate = share.gate),
      other ∈ logins.shares ∧ other.account = share.account := by
    intro other member
    obtain ⟨also, same⟩ := List.mem_filter.mp member
    exact ⟨also, (orderly.gate_eq_iff held also).mp (by simpa using same)⟩
  generalize logins.shares.filter (·.gate = share.gate) = company at many apart alike
  obtain - | ⟨one, - | ⟨two, others⟩⟩ := company
  · simp at many
  · simp at many
  · obtain ⟨first, second, -⟩ : _ ∧ _ ∧ _ := by simpa using alike
    -- Of two callers one is not the one that holds the share.
    by_cases mine : one.caller = share.caller
    · refine ⟨two, second.1, second.2, fun same => ?_⟩
      exact (List.pairwise_cons.mp apart).1 two List.mem_cons_self (mine.trans same.symm)
    · exact ⟨one, first.1, first.2, mine⟩

theorem mem_leave_of_ne (held : share ∈ logins.shares) (differs : share.caller ≠ own) :
    share ∈ (logins.leave own).shares := by
  rw [leave_shares]
  exact List.mem_filter.mpr ⟨held, by simpa using differs⟩

/-- The table after a caller has left: the gate goes with the last that holds it. -/
theorem Orderly.gates_leave (orderly : logins.Orderly) (held : share ∈ logins.shares) :
    (logins.leave share.caller).gates =
      if logins.holders share.account share.gate ≤ 2 then
        TokenCache.without share.account logins.gates
      else logins.gates := by
  unfold Logins.leave
  rw [orderly.share?_eq held]
  dsimp only
  rw [decide_eq_true (orderly.gated share held), Bool.and_true]
  split
  · next last => rw [if_pos (of_decide_eq_true last)]
  · next many => rw [if_neg (by simpa using many)]

theorem Tended.leave (tended : logins.Tended) (caller : Nat) : (logins.leave caller).Tended := by
  refine ⟨tended.toOrderly.leave caller, ?_, ?_⟩
  · refine List.Nodup.sublist ?_ tended.once
    unfold Logins.leave
    split
    · exact List.Sublist.refl _
    · dsimp only
      split
      · exact List.filter_sublist.map _
      · exact List.Sublist.refl _
  · cases found : logins.share? caller with
    | none =>
      rw [Logins.leave, found]
      exact tended.used
    | some share =>
      obtain ⟨held, rfl⟩ := share?_eq_some found
      rw [tended.gates_leave held]
      intro binding member
      -- Either another caller has a share for the account, or its gate has gone.
      by_cases mine : binding.1 = share.account
      · split at member
        · exact absurd mine (by simpa using (List.mem_filter.mp member).2)
        · next many =>
          obtain ⟨other, also, same, differs⟩ := tended.exists_other held many
          exact ⟨other, mem_leave_of_ne also differs, same.trans mine.symm⟩
      · have old : binding ∈ logins.gates := by
          split at member
          · exact (List.mem_filter.mp member).1
          · exact member
        obtain ⟨other, also, same⟩ := tended.used binding old
        refine ⟨other, mem_leave_of_ne also fun alike => mine ?_, same⟩
        rw [← same, tended.caller_inj also held alike]

theorem Tended.arrive (tended : logins.Tended) (free : logins.Without caller) (account : Account)
    (now : Time.Moment) : (logins.arrive caller account now).2.Tended := by
  refine ⟨tended.toOrderly.arrive free account now, ?_, ?_⟩ <;>
    rcases logins.cache.lacks_or_fresh account now with lacks | ⟨token, known, fresh⟩
  · -- Whoever finds no gate for its account sets up the only one.
    obtain ⟨gate, left, joins, -, -, ⟨-, table, -⟩ | ⟨absent, -, table, -⟩⟩ :=
      arrive_of_lacks caller lacks
    · rw [joins, table]
      exact tended.once
    · rw [joins, table, List.map_append]
      refine List.nodup_append.mpr ⟨tended.once, List.pairwise_singleton _ _, ?_⟩
      intro one listed other new same
      obtain ⟨binding, member, rfl⟩ := List.mem_map.mp listed
      rw [List.mem_singleton.mp new] at same
      simpa [same] using List.lookup_eq_none_iff.mp absent binding member
  · rw [arrive_of_fresh caller known fresh]
    exact tended.once
  · obtain ⟨gate, left, joins, shares, -, table⟩ := arrive_of_lacks caller lacks
    rw [joins, shares]
    have old : ∀ binding ∈ logins.gates,
        ∃ share ∈ logins.shares ++ [⟨caller, account, gate, none⟩],
          share.account = binding.1 := by
      intro binding member
      obtain ⟨share, held, same⟩ := tended.used binding member
      exact ⟨share, List.mem_append_left _ held, same⟩
    rcases table with ⟨-, table, -⟩ | ⟨-, -, table, -⟩
    · rwa [table]
    · intro binding member
      rw [table, List.mem_append, List.mem_singleton] at member
      rcases member with before | rfl
      · exact old binding before
      · exact ⟨_, List.mem_append_right _ (List.mem_singleton_self _), rfl⟩
  · rw [arrive_of_fresh caller known fresh]
    exact tended.used

theorem Tended.enter (tended : logins.Tended) (found : logins.share? caller = some share)
    (turn : logins.mayEnter caller = true) (now : Time.Moment) (deadline : Nat) :
    (logins.enter share now deadline).2.Tended := by
  rcases logins.cache.lacks_or_fresh share.account now with lacks | ⟨token, known, fresh⟩
  · have orderly := tended.toOrderly.enter found turn now deadline
    rw [enter_of_lacks deadline lacks] at orderly ⊢
    refine ⟨orderly, tended.once, fun binding member => ?_⟩
    obtain ⟨other, held, same⟩ := tended.used binding member
    exact ⟨_, List.mem_map_of_mem held, (Share.begun_account _ _ _).trans same⟩
  · rw [enter_of_fresh deadline known fresh]
    exact (tended.withCache _).leave _

theorem Move.tended (move : Move logins now happening after) (tended : logins.Tended) :
    after.Tended := by
  cases move with
  | arrived account free => exact tended.arrive free account now
  | entered deadline found turn => exact tended.enter found turn now deadline
  | @ended _ share result found begun =>
    obtain ⟨cache, same⟩ := finish_eq logins share result
    rw [same]
    exact (tended.withCache cache).leave _
  | dropped caller => exact tended.leave caller
  | invalidated account => exact tended.withCache _

theorem Course.tended {origin : Logins} (course : Course origin past logins)
    (tended : origin.Tended) : logins.Tended := by
  induction course with
  | nil => exact tended
  | more course move ih => exact move.tended ih

/-! Who waits or logs in, by what is on record. -/

/-- A caller has found no token, and for which account. -/
def Happening.misses? : Happening → Option (Nat × Account)
  | arrived caller account none | entered caller account none => some (caller, account)
  | _ => none

/-- A caller that has found no token, and has done nothing since. -/
def Waits : List Entry → Nat → Account → Prop
  | [], _, _ => False
  | entry :: past, caller, account =>
    entry.happening.misses? = some (caller, account) ∨
      entry.happening.caller? ≠ some caller ∧ Waits past caller account

/-- A caller has a share for an account. -/
def Stands (logins : Logins) (caller : Nat) (account : Account) : Prop :=
  ∃ share ∈ logins.shares, share.caller = caller ∧ share.account = account

theorem Without.not_stands (free : logins.Without caller) : ¬logins.Stands caller account :=
  fun ⟨share, held, same, _⟩ => free share held same

theorem stands_leave :
    (logins.leave own).Stands caller account ↔ own ≠ caller ∧ logins.Stands caller account := by
  constructor
  · rintro ⟨share, held, rfl, rfl⟩
    obtain ⟨old, differs⟩ := mem_leave held
    exact ⟨differs.symm, share, old, rfl, rfl⟩
  · rintro ⟨differs, share, held, rfl, rfl⟩
    exact ⟨share, mem_leave_of_ne held differs.symm, rfl, rfl⟩

theorem Orderly.stands_iff (orderly : logins.Orderly) (held : share ∈ logins.shares) :
    logins.Stands share.caller account ↔ share.account = account := by
  constructor
  · rintro ⟨other, also, same, rfl⟩
    rw [orderly.caller_inj held also same.symm]
  · intro same
    exact ⟨share, held, rfl, same⟩

theorem stands_begun (cache : TokenCache) (own deadline : Nat) :
    Stands { logins with cache, shares := logins.shares.map (Share.begun own deadline) } caller
      account ↔ logins.Stands caller account := by
  constructor
  · rintro ⟨_, mapped, rfl, rfl⟩
    obtain ⟨share, held, rfl⟩ := List.mem_map.mp mapped
    exact ⟨share, held, by simp, by simp⟩
  · rintro ⟨share, held, rfl, rfl⟩
    exact ⟨_, List.mem_map_of_mem held, by simp, by simp⟩

theorem Change.stands (change : Change logins now happening after) (orderly : logins.Orderly) :
    after.Stands caller account ↔ happening.misses? = some (caller, account) ∨
      happening.caller? ≠ some caller ∧ logins.Stands caller account := by
  -- One that does something without missing a token is gone afterwards, or was never there.
  have gone {own : Nat} {happening : Happening} (mine : happening.caller? = some own)
      (served : happening.misses? = none) :
      own ≠ caller ∧ logins.Stands caller account ↔
        happening.misses? = some (caller, account) ∨
          happening.caller? ≠ some caller ∧ logins.Stands caller account := by
    simp [mine, served]
  -- One that misses a token stands there for its account and no other.
  have stays {own : Nat} {wanted : Account} {happening : Happening}
      (mine : happening.caller? = some own) (missed : happening.misses? = some (own, wanted))
      (alone : after.Stands own account ↔ wanted = account)
      (rest : own ≠ caller → (after.Stands caller account ↔ logins.Stands caller account)) :
      after.Stands caller account ↔ happening.misses? = some (caller, account) ∨
        happening.caller? ≠ some caller ∧ logins.Stands caller account := by
    rw [mine, missed]
    by_cases same : own = caller
    · subst same
      simp [alone]
    · simp [same, rest same]
  cases change with
  | @served own _ _ free =>
    refine Iff.trans ⟨fun stands => ⟨?_, stands⟩, And.right⟩ (gone rfl rfl)
    rintro rfl
    exact free.not_stands stands
  | @joined own gate wanted _ free _ shares =>
    have stands (caller : Nat) : after.Stands caller account ↔
        logins.Stands caller account ∨ own = caller ∧ wanted = account := by
      simp [Stands, shares, or_and_right, exists_or]
    refine stays rfl rfl ?_ fun differs => ?_
    · simp [stands, free.not_stands]
    · simp [stands, differs]
  | @begun share deadline held =>
    exact stays rfl rfl ((stands_begun _ _ _).trans (orderly.stands_iff held))
      fun _ => stands_begun _ _ _
  | admitted => exact stands_leave.trans (gone rfl rfl)
  | accepted => exact stands_leave.trans (gone rfl rfl)
  | failed => exact stands_leave.trans (gone rfl rfl)
  | dropped => exact stands_leave.trans (gone rfl rfl)
  | invalidated =>
    change logins.Stands caller account ↔ _
    simp [Happening.misses?, Happening.caller?]

theorem Course.stands_iff_waits {cache : TokenCache} (course : Course { cache } past logins) :
    logins.Stands caller account ↔ Waits past caller account := by
  induction course with
  | nil => simp [Stands, Waits]
  | more course move ih =>
    rw [move.change.stands (course.orderly (.empty cache)), Waits, ih]

/-! What happens to the tokens. -/

/-- A token has been given, or is not to be used any more. -/
def Happening.Settles : Happening → Prop
  | ended _ _ (.ok _) _ | invalidated _ => True
  | _ => False

/-- A login has ended without a token, or its caller does not go on. -/
def Happening.Fails : Happening → Prop
  | ended _ _ (.error _) _ | dropped _ => True
  | _ => False

theorem Change.token?_eq (change : Change logins now happening after)
    (unsettled : ¬happening.Settles) (account : Account) :
    after.cache.token? account = logins.cache.token? account := by
  cases change with
  | served => exact TokenCache.token?_touch _ _ _
  | joined _ _ _ cache =>
    rw [cache]
    exact TokenCache.token?_touch _ _ _
  | admitted =>
    rw [leave_cache]
    exact TokenCache.token?_touch _ _ _
  | begun => exact TokenCache.token?_touch _ _ _
  | failed => rw [leave_cache]
  | dropped => rw [leave_cache]
  | accepted => exact (unsettled trivial).elim
  | invalidated => exact (unsettled trivial).elim

theorem Change.cache_eq (change : Change logins now happening after) (fails : happening.Fails) :
    after.cache = logins.cache := by
  cases change with
  | failed => exact leave_cache _ _
  | dropped => exact leave_cache _ _
  | _ => exact fails.elim

/-- Whatever callers do and in whatever order, the table leads from the account of each share to the
gate of this share; it lists the accounts that somebody waits or logs in for, each once, and is
empty as soon as nobody does. A login that fails, takes too long or is dropped leaves the store as
it was, and so does everything for the tokens in it but a login accepted or a token given up. -/
theorem gates_of_waiting {cache : TokenCache} (course : Course { cache } past logins) :
    (∀ share ∈ logins.shares, logins.gates.lookup share.account = some share.gate) ∧
    (∀ caller account, logins.Stands caller account ↔ Waits past caller account) ∧
    (∃ accounts : List Account, accounts.Nodup ∧ logins.pending = accounts.length ∧
      ∀ account, account ∈ accounts ↔ ∃ caller, Waits past caller account) ∧
    (logins.pending = 0 ↔ ∀ caller account, ¬Waits past caller account) ∧
    ∀ entry ∈ past,
      (entry.happening.Fails → entry.after.cache = entry.before.cache) ∧
      (¬entry.happening.Settles → ∀ account,
        entry.after.cache.token? account = entry.before.cache.token? account) := by
  have tended := course.tended (.empty cache)
  have stands (caller : Nat) (account : Account) :
      logins.Stands caller account ↔ Waits past caller account := course.stands_iff_waits
  have listed (account : Account) :
      account ∈ logins.gates.map (·.1) ↔ ∃ caller, Waits past caller account := by
    simp only [tended.mem_gates, ← stands, Stands]
    exact ⟨fun ⟨share, held, same⟩ => ⟨_, share, held, rfl, same⟩,
      fun ⟨_, share, held, _, same⟩ => ⟨share, held, same⟩⟩
  refine ⟨tended.gated, stands, ⟨_, tended.once, ?_, listed⟩, ?_, ?_⟩
  · rw [pending, List.length_map]
  · rw [pending, ← List.length_map (·.1), List.length_eq_zero_iff, List.eq_nil_iff_forall_not_mem]
    simp only [listed, not_exists]
    exact forall_comm
  · intro entry member
    obtain ⟨later, earlier, rfl⟩ := List.append_of_mem member
    obtain ⟨-, move, -⟩ := course.split
    exact ⟨move.change.cache_eq, move.change.token?_eq⟩

/-! Two callers of an account: the login of one takes too long, the other is dropped. -/

def joined : Logins := (opened.arrive 1 sharedAccount 1000).2

def trying : Logins := (joined.enter (standing 0 none) 1000 750).2

def overdue : Logins := (trying.finish (standing 0 (some 750)) (.error .timeout)).2

theorem gates_of_waiting_two :
    overdue.gates.lookup sharedAccount = some 0 ∧
      (∃ past, Course (empty 8) past overdue ∧ Waits past 1 sharedAccount ∧
        ¬Waits past 0 sharedAccount) ∧
      (overdue.leave 1).pending = 0 := by
  have comes : Move (empty 8) 1000 _ opened := .arrived sharedAccount (by simp [Without, empty])
  have free : opened.Without 1 := by
    have others : ∀ share ∈ opened.shares, share.caller ≠ 1 := by decide +kernel
    exact others
  have joins : Move opened 1000 _ joined := .arrived sharedAccount free
  have begins : Move joined 1000 _ trying :=
    @Move.entered joined 1000 0 (standing 0 none) 750 (by decide +kernel) (by decide +kernel)
  have fails : Move trying 1000 _ overdue :=
    @Move.ended trying 1000 0 (standing 0 (some 750)) (.error .timeout) (by decide +kernel) rfl
  have goes : Move overdue 1000 _ (overdue.leave 1) := .dropped 1
  have course := ((Course.nil.more comes).more joins |>.more begins).more fails
  obtain ⟨gated, stands, -⟩ := gates_of_waiting course
  obtain ⟨-, left, -, idle, -⟩ := gates_of_waiting (course.more goes)
  have gone : ∀ share ∈ overdue.shares, share.caller ≠ 0 := by decide +kernel
  have nobody : (overdue.leave 1).shares = [] := by decide +kernel
  refine ⟨gated (standing 1 none) (by decide +kernel), ⟨_, course, ?_, ?_⟩, idle.mpr ?_⟩
  · exact (stands 1 _).mp ⟨standing 1 none, by decide +kernel, rfl, rfl⟩
  · exact fun waits => Without.not_stands gone ((stands 0 _).mpr waits)
  · intro caller account waits
    obtain ⟨share, held, -⟩ := (left caller account).mpr waits
    simp [nobody] at held

end SelfCheck.Logins
