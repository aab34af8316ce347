import SelfCheck.Proofs.Token.Queue

/-! One login for all who want a token of the same account.

Callers come, go in, end their logins and are dropped in any order, at any moments, and tokens may
be lost in between. A course leaves all of this open.
-/

set_option autoImplicit false

namespace SelfCheck.Logins

/-- What happens to logins: what one caller does, or the loss of a token. -/
inductive Happening where
  /-- A caller comes, and finds a token in the store or waits. -/
  | arrived (caller : Nat) (account : Account) (found : Option Token)
  /-- A caller goes in, and finds a token in the store or begins its login. -/
  | entered (caller : Nat) (account : Account) (found : Option Token)
  /-- The login of a caller ends, by an answer or for lack of one. -/
  | ended (caller : Nat) (account : Account) (result : Except PlatformError Token)
      (evicted : Option Account)
  /-- A caller is dropped, whether it waits or logs in. -/
  | dropped (caller : Nat)
  | invalidated (account : Account)

namespace Happening

/-- The caller that does it. -/
def caller? : Happening → Option Nat
  | arrived caller _ _ | entered caller _ _ | ended caller _ _ _ | dropped caller => some caller
  | invalidated _ => none

/-- What a caller gets, and for which account. -/
def returned? : Happening → Option (Nat × Account × Except PlatformError Token)
  | arrived caller account found | entered caller account found =>
    found.map fun token => (caller, account, .ok token)
  | ended caller account result _ => some (caller, account, result)
  | _ => none

/-- The account that loses its token. -/
def loses? : Happening → Option Account
  | ended _ _ _ evicted => evicted
  | invalidated account => some account
  | _ => none

/-- A login for an account begins. -/
def Begins (happening : Happening) (account : Account) : Prop :=
  ∃ caller, happening = .entered caller account none

end Happening

/-- The moves that callers can make at a moment, with what they need and what they lead to. -/
inductive Move (logins : Logins) (now : Time.Moment) : Happening → Logins → Prop where
  | arrived {caller : Nat} (account : Account) :
      logins.Without caller →
      Move logins now (.arrived caller account (logins.arrive caller account now).1)
        (logins.arrive caller account now).2
  | entered {caller : Nat} {share : Share} (deadline : Nat) :
      logins.share? caller = some share → logins.mayEnter caller = true →
      Move logins now (.entered caller share.account (logins.enter share now deadline).1)
        (logins.enter share now deadline).2
  | ended {caller : Nat} {share : Share} (result : Except PlatformError Token) :
      logins.share? caller = some share → share.deadline.isSome = true →
      Move logins now (.ended caller share.account result (logins.finish share result).1)
        (logins.finish share result).2
  | dropped (caller : Nat) : Move logins now (.dropped caller) (logins.leave caller)
  | invalidated (account : Account) :
      Move logins now (.invalidated account) (logins.invalidate account)

/-- What the moves come to. Whoever comes or goes in finds a fresh token, or the store lacks one. -/
inductive Change (logins : Logins) (now : Time.Moment) : Happening → Logins → Prop where
  | served {caller : Nat} {account : Account} {token : Token} :
      logins.Without caller → logins.cache.token? account = some token → token.isStale now = false →
      Change logins now (.arrived caller account (some token))
        { logins with cache := logins.cache.touch account }
  | joined {caller gate : Nat} {account : Account} {left : Logins} :
      logins.Without caller → logins.cache.Lacks account now →
      left.shares = logins.shares ++ [⟨caller, account, gate, none⟩] →
      left.cache = logins.cache.touch account →
      Change logins now (.arrived caller account none) left
  | admitted {share : Share} {token : Token} :
      share ∈ logins.shares → logins.mayEnter share.caller = true →
      logins.cache.token? share.account = some token → token.isStale now = false →
      Change logins now (.entered share.caller share.account (some token))
        (leave { logins with cache := logins.cache.touch share.account } share.caller)
  | begun {share : Share} (deadline : Nat) :
      share ∈ logins.shares → logins.mayEnter share.caller = true →
      logins.cache.Lacks share.account now →
      Change logins now (.entered share.caller share.account none)
        { logins with
          cache := logins.cache.touch share.account
          shares := logins.shares.map (Share.begun share.caller deadline) }
  | accepted {share : Share} (token : Token) :
      share ∈ logins.shares → share.deadline.isSome = true →
      Change logins now
        (.ended share.caller share.account (.ok token)
          (logins.cache.insert share.account token).1)
        (leave { logins with cache := (logins.cache.insert share.account token).2 } share.caller)
  | failed {share : Share} (error : PlatformError) :
      share ∈ logins.shares → share.deadline.isSome = true →
      Change logins now (.ended share.caller share.account (.error error) none)
        (logins.leave share.caller)
  | dropped (caller : Nat) : Change logins now (.dropped caller) (logins.leave caller)
  | invalidated (account : Account) :
      Change logins now (.invalidated account) (logins.invalidate account)

/-- A move on record. -/
structure Entry where
  before : Logins
  now : Time.Moment
  happening : Happening
  after : Logins

/-- Logins from their origin on, with everything on record, the latest first. -/
inductive Course (origin : Logins) : List Entry → Logins → Prop where
  | nil : Course origin [] origin
  | more {past : List Entry} {logins after : Logins} {now : Time.Moment} {happening : Happening} :
      Course origin past logins → Move logins now happening after →
      Course origin (⟨logins, now, happening, after⟩ :: past) after

variable {origin logins after : Logins} {past later earlier : List Entry} {entry : Entry}
  {now : Time.Moment} {happening : Happening} {caller : Nat} {account : Account} {token : Token}
  {share : Share}

theorem Move.change (move : Move logins now happening after) :
    Change logins now happening after := by
  cases move with
  | @arrived caller account free =>
    rcases logins.cache.lacks_or_fresh account now with lacks | ⟨token, held, fresh⟩
    · obtain ⟨gate, left, joins, shares, cache, -⟩ := arrive_of_lacks caller lacks
      rw [joins]
      exact .joined free lacks shares cache
    · rw [arrive_of_fresh caller held fresh]
      exact .served free held fresh
  | @entered caller share deadline found turn =>
    obtain ⟨held, rfl⟩ := share?_eq_some found
    rcases logins.cache.lacks_or_fresh share.account now with lacks | ⟨token, known, fresh⟩
    · rw [enter_of_lacks deadline lacks]
      exact .begun deadline held turn lacks
    · rw [enter_of_fresh deadline known fresh]
      exact .admitted held turn known fresh
  | @ended caller share result found begun =>
    obtain ⟨held, rfl⟩ := share?_eq_some found
    cases result with
    | ok token => exact .accepted token held begun
    | error error => exact .failed error held begun
  | dropped caller => exact .dropped caller
  | invalidated account => exact .invalidated account

theorem Move.orderly (move : Move logins now happening after) (orderly : logins.Orderly) :
    after.Orderly := by
  cases move with
  | arrived account free => exact orderly.arrive free account now
  | entered deadline found turn => exact orderly.enter found turn now deadline
  | ended result found begun => exact orderly.finish _ result
  | dropped caller => exact orderly.leave caller
  | invalidated account => exact orderly.withCache _

theorem Course.orderly (course : Course origin past logins) (orderly : origin.Orderly) :
    logins.Orderly := by
  induction course with
  | nil => exact orderly
  | more course move ih => exact move.orderly ih

/-- An entry is a move between what came before and what has come since. -/
theorem Course.split (course : Course origin (later ++ entry :: earlier) logins) :
    Course origin earlier entry.before ∧
      Move entry.before entry.now entry.happening entry.after ∧
      Course entry.after later logins := by
  generalize whole : later ++ entry :: earlier = past at course
  induction course generalizing later with
  | nil => simp at whole
  | more course move ih =>
    cases later with
    | nil =>
      simp only [List.nil_append, List.cons.injEq] at whole
      obtain ⟨rfl, rfl⟩ := whole
      exact ⟨course, move, .nil⟩
    | cons last later =>
      simp only [List.cons_append, List.cons.injEq] at whole
      obtain ⟨rfl, rest⟩ := whole
      obtain ⟨first, here, onward⟩ := ih rest
      exact ⟨first, here, .more onward move⟩

/-! An account without a login going on. -/

theorem Idle.of_filter (idle : logins.Idle account) {test : Share → Bool}
    (same : after.queue account = (logins.queue account).filter test) : after.Idle account := by
  intro share member
  rw [same] at member
  exact idle share (List.mem_filter.mp member).1

theorem Idle.ne_of_begun (idle : logins.Idle account) (held : share ∈ logins.shares)
    (begun : share.deadline.isSome = true) : account ≠ share.account := by
  rintro rfl
  rw [idle share (mem_queue_self held)] at begun
  cases begun

/-- Once the first of a queue leaves, nobody logs in for the account any more. -/
theorem Orderly.idle_leave (orderly : logins.Orderly) (held : share ∈ logins.shares)
    (begun : share.deadline.isSome = true) : (logins.leave share.caller).Idle share.account := by
  intro other member
  rw [queue_leave] at member
  obtain ⟨queued, differs⟩ := List.mem_filter.mp member
  obtain ⟨rest, queue⟩ := List.head?_eq_some_iff.mp (orderly.first_of_begun held begun)
  apply orderly.single share.account
  rw [queue] at queued ⊢
  rcases List.mem_cons.mp queued with rfl | behind
  · simp at differs
  · exact behind

/-- No login for an account is going on after a move unless it begins there. -/
theorem Change.idle (change : Change logins now happening after) (orderly : logins.Orderly)
    (idle : logins.Idle account) (quiet : ¬happening.Begins account) : after.Idle account := by
  cases change with
  | served => exact idle
  | joined _ _ shares =>
    intro share member
    obtain ⟨member, mine⟩ := mem_queue.mp member
    rw [shares, List.mem_append, List.mem_singleton] at member
    rcases member with old | rfl
    · exact idle share (mem_queue.mpr ⟨old, mine⟩)
    · rfl
  | admitted => exact idle.of_filter (queue_leave _ _ _)
  | @begun share deadline held =>
    intro other member
    rw [queue_begun] at member
    obtain ⟨before, queued, rfl⟩ := List.mem_map.mp member
    rw [Share.begun_of_ne, idle before queued]
    -- The login that begins is for another account.
    intro same
    obtain ⟨also, mine⟩ := mem_queue.mp queued
    obtain rfl := orderly.caller_inj also held same
    exact quiet ⟨before.caller, by rw [mine]⟩
  | accepted => exact idle.of_filter (queue_leave _ _ _)
  | failed => exact idle.of_filter (queue_leave _ _ _)
  | dropped caller => exact idle.of_filter (queue_leave _ _ _)
  | invalidated other => exact idle

/-- While no login for an account is going on, its token stays until it is lost. -/
theorem Change.keeps_token (change : Change logins now happening after)
    (idle : logins.Idle account) (held : logins.cache.token? account = some token)
    (spared : happening.loses? ≠ some account) : after.cache.token? account = some token := by
  cases change with
  | served => rw [TokenCache.token?_touch, held]
  | joined _ _ _ cache => rw [cache, TokenCache.token?_touch, held]
  | admitted => rw [leave_cache, TokenCache.token?_touch, held]
  | begun => rw [TokenCache.token?_touch, held]
  | accepted given standing begun =>
    rw [leave_cache, ← held]
    exact TokenCache.token?_insert_of_ne (idle.ne_of_begun standing begun) spared
  | failed => rw [leave_cache, held]
  | dropped => rw [leave_cache, held]
  | invalidated other =>
    have differs : account ≠ other := by
      rintro rfl
      exact spared rfl
    exact (TokenCache.token?_remove_of_ne differs).trans held

/-- A token in the store was there before, unless a login for its account has just been accepted. -/
theorem Change.old_token (change : Change logins now happening after)
    (held : after.cache.token? account = some token) :
    logins.cache.token? account = some token ∨ ∃ share ∈ logins.shares,
      share.account = account ∧ share.deadline.isSome = true ∧
        happening.caller? = some share.caller := by
  cases change with
  | served => exact .inl (by rwa [TokenCache.token?_touch] at held)
  | joined _ _ _ cache => exact .inl (by rwa [cache, TokenCache.token?_touch] at held)
  | admitted => exact .inl (by rwa [leave_cache, TokenCache.token?_touch] at held)
  | begun => exact .inl (by rwa [TokenCache.token?_touch] at held)
  | accepted given standing begun =>
    rw [leave_cache] at held
    rcases TokenCache.token?_of_insert held with ⟨rfl, rfl⟩ | old
    · exact .inr ⟨_, standing, rfl, begun, rfl⟩
    · exact .inl old
  | failed => exact .inl (by rwa [leave_cache] at held)
  | dropped => exact .inl (by rwa [leave_cache] at held)
  | invalidated => exact .inl (TokenCache.token?_of_remove held)

/-- The first of a queue may go in when no login for the account is going on. -/
theorem Orderly.mayEnter_first (orderly : logins.Orderly) (idle : logins.Idle account)
    (first : (logins.queue account).head? = some share) :
    share.account = account ∧ logins.mayEnter share.caller = true := by
  have queued := List.mem_of_head? first
  obtain ⟨held, rfl⟩ := mem_queue.mp queued
  exact ⟨rfl, (orderly.mayEnter_iff held).mpr ⟨idle share queued, first⟩⟩

/-! After a login that has succeeded. -/

/-- An account has a token, and no login for it is going on. -/
structure Settled (logins : Logins) (account : Account) (token : Token) : Prop where
  held : logins.cache.token? account = some token
  idle : logins.Idle account

/-- While the token is there and fresh, nobody begins a login for the account, whoever gets
something for it gets this token, and everybody who waits goes on waiting, is dropped or gets it. -/
theorem Settled.change (settled : logins.Settled account token)
    (change : Change logins now happening after) (orderly : logins.Orderly)
    (fresh : token.isStale now = false) (spared : happening.loses? ≠ some account) :
    after.Settled account token ∧ ¬happening.Begins account ∧
      (∀ caller result, happening.returned? = some (caller, account, result) →
        result = .ok token) ∧
      ∀ share ∈ logins.queue account, share ∈ after.queue account ∨
        happening = .dropped share.caller ∨
        happening = .entered share.caller account (some token) := by
  obtain ⟨held, idle⟩ := settled
  have rich : ¬logins.cache.Lacks account now := by
    intro lacks
    rw [lacks token held] at fresh
    cases fresh
  have quiet : ¬happening.Begins account := by
    rintro ⟨caller, rfl⟩
    cases change with
    | begun _ _ _ lacks => exact rich lacks
  refine ⟨⟨change.keeps_token idle held spared, change.idle orderly idle quiet⟩, quiet, ?_, ?_⟩
  · intro caller result returned
    cases change with
    | served _ known =>
      cases returned
      rw [held] at known
      cases known
      rfl
    | admitted _ _ known =>
      cases returned
      rw [held] at known
      cases known
      rfl
    | accepted _ standing begun =>
      cases returned
      exact (idle.ne_of_begun standing begun rfl).elim
    | failed _ standing begun =>
      cases returned
      exact (idle.ne_of_begun standing begun rfl).elim
    | _ => cases returned
  · intro share queued
    obtain ⟨standing, mine⟩ := mem_queue.mp queued
    -- Whoever does not do anything itself goes on waiting.
    have stays {caller : Nat} {cache : TokenCache} (other : share.caller ≠ caller) :
        share ∈ (leave { logins with cache } caller).queue account := by
      rw [queue_leave]
      exact List.mem_filter.mpr ⟨queued, by simpa using other⟩
    cases change with
    | served => exact .inl queued
    | joined _ _ shares =>
      refine .inl (mem_queue.mpr ⟨?_, mine⟩)
      rw [shares]
      exact List.mem_append_left _ standing
    | @admitted own found also turn known =>
      by_cases same : share.caller = own.caller
      · obtain rfl := orderly.caller_inj standing also same
        subst mine
        rw [held] at known
        cases known
        exact .inr (.inr rfl)
      · exact .inl (stays same)
    | @begun own deadline also =>
      refine .inl ?_
      rw [queue_begun]
      refine List.mem_map.mpr ⟨share, queued, Share.begun_of_ne ?_⟩
      intro same
      obtain rfl := orderly.caller_inj standing also same
      exact quiet ⟨share.caller, by rw [mine]⟩
    | @accepted own given also begun =>
      refine .inl (stays ?_)
      intro same
      obtain rfl := orderly.caller_inj standing also same
      exact idle.ne_of_begun also begun mine.symm
    | @failed own error also begun =>
      refine .inl (stays ?_)
      intro same
      obtain rfl := orderly.caller_inj standing also same
      exact idle.ne_of_begun also begun mine.symm
    | dropped caller =>
      by_cases same : share.caller = caller
      · exact .inr (.inl (by rw [same]))
      · exact .inl (stays same)
    | invalidated => exact .inl queued

/-- What has come of an account's waiting callers since its login has succeeded. -/
structure Served (account : Account) (token : Token) (start : Logins) (later : List Entry)
    (logins : Logins) : Prop where
  settled : logins.Settled account token
  none_begins : ∀ entry ∈ later, ¬entry.happening.Begins account
  returns : ∀ entry ∈ later, ∀ caller result,
    entry.happening.returned? = some (caller, account, result) → result = .ok token
  waiting : ∀ share ∈ start.queue account, share ∈ logins.queue account ∨ ∃ entry ∈ later,
    entry.happening = .dropped share.caller ∨
      entry.happening = .entered share.caller account (some token)
  /-- The next in the queue may go in, and would get the token. -/
  next : ∀ share, (logins.queue account).head? = some share →
    logins.mayEnter share.caller = true ∧ ∀ now deadline, token.isStale now = false →
      (logins.enter share now deadline).1 = some token

theorem Course.served (course : Course origin later logins) (orderly : origin.Orderly)
    (settled : origin.Settled account token)
    (calm : ∀ entry ∈ later,
      token.isStale entry.now = false ∧ entry.happening.loses? ≠ some account) :
    Served account token origin later logins := by
  have next {logins : Logins} (orderly : logins.Orderly) (settled : logins.Settled account token)
      (share : Share) (first : (logins.queue account).head? = some share) :
      logins.mayEnter share.caller = true ∧ ∀ now deadline, token.isStale now = false →
        (logins.enter share now deadline).1 = some token := by
    obtain ⟨rfl, turn⟩ := orderly.mayEnter_first settled.idle first
    exact ⟨turn, fun now deadline fresh => by rw [enter_of_fresh deadline settled.held fresh]⟩
  induction course with
  | nil =>
    exact ⟨settled, by simp, by simp, fun share queued => .inl queued, next orderly settled⟩
  | @more past logins after now happening course move ih =>
    obtain ⟨⟨fresh, spared⟩, calm⟩ := List.forall_mem_cons.mp calm
    obtain ⟨before, none, returns, waiting, -⟩ := ih calm
    have ordered := course.orderly orderly
    obtain ⟨after, quiet, returned, waits⟩ :=
      before.change move.change ordered fresh spared
    refine ⟨after, List.forall_mem_cons.mpr ⟨quiet, none⟩,
      List.forall_mem_cons.mpr ⟨returned, returns⟩, ?_, next (move.orderly ordered) after⟩
    intro share queued
    rcases waiting share queued with still | ⟨entry, member, done⟩
    · rcases waits share still with still | done
      · exact .inl still
      · exact .inr ⟨_, List.mem_cons_self, done⟩
    · exact .inr ⟨entry, List.mem_cons_of_mem _ member, done⟩

/-! After a login that has failed. -/

/-- What has come of an account's waiting callers since a moment from which on the store has had no
token for them, while nobody has begun a login. -/
structure Unserved (account : Account) (start : Time.Moment) (later : List Entry)
    (logins : Logins) : Prop where
  idle : logins.Idle account
  lacks : logins.cache.Lacks account start
  none_returns : ∀ entry ∈ later, ∀ caller result,
    entry.happening.returned? ≠ some (caller, account, result)
  /-- The next in the queue may go in, and would begin a login of its own. -/
  next : ∀ share, (logins.queue account).head? = some share →
    logins.mayEnter share.caller = true ∧ ∀ now deadline, start ≤ now →
      (logins.enter share now deadline).1 = none

theorem Change.unserved (change : Change logins now happening after) (idle : logins.Idle account)
    {start : Time.Moment} (lacks : logins.cache.Lacks account start) (since : start ≤ now)
    (quiet : ¬happening.Begins account) :
    after.cache.Lacks account start ∧
      ∀ caller result, happening.returned? ≠ some (caller, account, result) := by
  constructor
  · intro token held
    rcases change.old_token held with old | ⟨share, standing, rfl, begun, -⟩
    · exact lacks token old
    · exact (idle.ne_of_begun standing begun rfl).elim
  · intro caller result returned
    have poor {token : Token} (held : logins.cache.token? account = some token)
        (fresh : token.isStale now = false) : False := by
      rw [lacks.later since token held] at fresh
      cases fresh
    cases change with
    | served _ held fresh =>
      cases returned
      exact poor held fresh
    | admitted _ _ held fresh =>
      cases returned
      exact poor held fresh
    | accepted _ standing begun =>
      cases returned
      exact idle.ne_of_begun standing begun rfl
    | failed _ standing begun =>
      cases returned
      exact idle.ne_of_begun standing begun rfl
    | _ => cases returned

theorem Course.unserved (course : Course origin later logins) (orderly : origin.Orderly)
    (idle : origin.Idle account) {start : Time.Moment} (lacks : origin.cache.Lacks account start)
    (quiet : ∀ entry ∈ later, start ≤ entry.now ∧ ¬entry.happening.Begins account) :
    Unserved account start later logins := by
  have next {logins : Logins} (orderly : logins.Orderly) (idle : logins.Idle account)
      (lacks : logins.cache.Lacks account start) (share : Share)
      (first : (logins.queue account).head? = some share) :
      logins.mayEnter share.caller = true ∧ ∀ now deadline, start ≤ now →
        (logins.enter share now deadline).1 = none := by
    obtain ⟨rfl, turn⟩ := orderly.mayEnter_first idle first
    exact ⟨turn, fun now deadline since => by rw [enter_of_lacks deadline (lacks.later since)]⟩
  induction course with
  | nil => exact ⟨idle, lacks, by simp, next orderly idle lacks⟩
  | more course move ih =>
    obtain ⟨⟨since, none⟩, quiet⟩ := List.forall_mem_cons.mp quiet
    obtain ⟨idleBefore, lacksBefore, returns, -⟩ := ih quiet
    have ordered := course.orderly orderly
    have idleAfter := move.change.idle ordered idleBefore none
    obtain ⟨lacksAfter, returned⟩ := move.change.unserved idleBefore lacksBefore since none
    exact ⟨idleAfter, lacksAfter, List.forall_mem_cons.mpr ⟨returned, returns⟩,
      next (move.orderly ordered) idleAfter lacksAfter⟩

/-- A caller has begun a login at a moment, and has done nothing since. -/
def Began (past : List Entry) (caller : Nat) (account : Account) (start : Time.Moment) : Prop :=
  ∃ since begun before, past = since ++ begun :: before ∧
    begun.happening = .entered caller account none ∧ begun.now = start ∧
    ∀ entry ∈ since, entry.happening.caller? ≠ some caller

theorem Began.onward {start : Time.Moment} (began : Began past caller account start)
    (other : entry.happening.caller? ≠ some caller) :
    Began (entry :: past) caller account start := by
  obtain ⟨since, begun, before, rfl, begins, same, nothing⟩ := began
  exact ⟨entry :: since, begun, before, rfl, begins, same,
    List.forall_mem_cons.mpr ⟨other, nothing⟩⟩

/-- A login that is going on was going on before, or has just begun. -/
theorem Change.begun_share (change : Change logins now happening after) (orderly : logins.Orderly)
    (held : share ∈ after.shares) (begun : share.deadline.isSome = true) :
    (share ∈ logins.shares ∧ happening.caller? ≠ some share.caller) ∨
      (happening = .entered share.caller share.account none ∧
        after.cache.Lacks share.account now) := by
  have left {caller : Nat} {cache : TokenCache}
      (held : share ∈ (leave { logins with cache } caller).shares) :
      share ∈ logins.shares ∧ some caller ≠ some share.caller := by
    obtain ⟨old, differs⟩ := mem_leave held
    exact ⟨old, fun same => differs (Option.some.inj same).symm⟩
  cases change with
  | served free =>
    exact .inl ⟨held, fun same => free share held (Option.some.inj same).symm⟩
  | joined free _ shares =>
    rw [shares, List.mem_append, List.mem_singleton] at held
    rcases held with old | rfl
    · exact .inl ⟨old, fun same => free share old (Option.some.inj same).symm⟩
    · cases begun
  | admitted => exact .inl (left held)
  | @begun own deadline also turn lacks =>
    obtain ⟨before, old, rfl⟩ := List.mem_map.mp held
    by_cases same : before.caller = own.caller
    · obtain rfl := orderly.caller_inj old also same
      rw [Share.begun_caller, Share.begun_account]
      refine .inr ⟨rfl, fun token known => lacks token ?_⟩
      rwa [TokenCache.token?_touch] at known
    · rw [Share.begun_of_ne same]
      exact .inl ⟨old, fun mine => same (Option.some.inj mine).symm⟩
  | accepted => exact .inl (left held)
  | failed => exact .inl (left held)
  | dropped => exact .inl (left held)
  | invalidated => exact .inl ⟨held, by simp [Happening.caller?]⟩

/-- Every login that is going on has its beginning on record, and since then the store has not had
anything fresher for its account. -/
theorem Course.began (course : Course origin past logins) (orderly : origin.Orderly)
    (fresh : ∀ share ∈ origin.shares, share.deadline = none) :
    ∀ share ∈ logins.shares, share.deadline.isSome = true →
      ∃ start, Began past share.caller share.account start ∧
        logins.cache.Lacks share.account start := by
  induction course with
  | nil =>
    intro share held begun
    rw [fresh share held] at begun
    cases begun
  | @more past logins after now happening course move ih =>
    intro share held begun
    have ordered := course.orderly orderly
    rcases move.change.begun_share ordered held begun with ⟨old, other⟩ | ⟨rfl, lacks⟩
    · obtain ⟨start, began, lacks⟩ := ih share old begun
      refine ⟨start, began.onward other, ?_⟩
      intro token known
      rcases move.change.old_token known with before | ⟨one, standing, same, going, mine⟩
      · exact lacks token before
      -- A token that was not there has been given to another login for the same account, but there
      -- is none.
      · rw [ordered.one_login standing old going begun same] at mine
        exact (other mine).elim
    · exact ⟨now, ⟨[], _, past, rfl, rfl, rfl, by simp⟩, lacks⟩

/-- A caller stands first at the gate that the table leads to for an account. -/
def Holds (logins : Logins) (caller : Nat) (account : Account) : Prop :=
  ∃ share ∈ logins.shares, share.caller = caller ∧ share.account = account ∧
    logins.gates.lookup account = some share.gate ∧ logins.isFirst share = true

theorem Change.holds (change : Change logins now (.entered caller account none) after)
    (orderly : logins.Orderly) :
    logins.Holds caller account ∧ logins.cache.Lacks account now := by
  cases change with
  | @begun share deadline held turn lacks =>
    have first := (orderly.isFirst_iff held).mpr ((orderly.mayEnter_iff held).mp turn).2
    exact ⟨⟨share, held, rfl, rfl, orderly.gated share held, first⟩, lacks⟩

/-- However callers come and go, an account has one login at most at any moment, and a caller begins
one only while it holds the account's gate and the store has no fresh token. Once a login has
succeeded, as long as its token is fresh and not lost, no other begins, and whoever waits gets the
same token unless it is dropped. The error of a login is returned to the caller that began it and
to nobody else: then the next in the queue may go in, and begins a login of its own. -/
theorem one_login_for_all {cache : TokenCache} (course : Course { cache } past logins) :
    (∀ one ∈ logins.shares, ∀ other ∈ logins.shares, one.deadline.isSome = true →
      other.deadline.isSome = true → one.account = other.account → one = other) ∧
    (∀ entry ∈ past, ∀ caller account, entry.happening = .entered caller account none →
      entry.before.Holds caller account ∧ entry.before.cache.Lacks account entry.now) ∧
    (∀ later success earlier caller account token evicted, past = later ++ success :: earlier →
      success.happening = .ended caller account (.ok token) evicted →
      (∀ entry ∈ later,
        token.isStale entry.now = false ∧ entry.happening.loses? ≠ some account) →
      Served account token success.after later logins) ∧
    (∀ later failure earlier caller account error, past = later ++ failure :: earlier →
      failure.happening.returned? = some (caller, account, .error error) →
      failure.after = failure.before.leave caller ∧ ∃ start,
        Began earlier caller account start ∧
        ((∀ entry ∈ later, start ≤ entry.now ∧ ¬entry.happening.Begins account) →
          Unserved account start later logins)) := by
  have empty := Orderly.empty cache
  refine ⟨?_, ?_, ?_, ?_⟩
  · intro one held other also begun begun' same
    exact (course.orderly empty).one_login held also begun begun' same
  · intro entry member caller account begins
    obtain ⟨later, earlier, rfl⟩ := List.append_of_mem member
    obtain ⟨before, move, -⟩ := course.split
    rw [begins] at move
    exact move.change.holds (before.orderly empty)
  · rintro later success earlier caller account token evicted rfl succeeds calm
    obtain ⟨before, move, onward⟩ := course.split
    have ordered := before.orderly empty
    have after := move.orderly ordered
    have change := move.change
    rw [succeeds] at change
    generalize success.after = start at change onward after
    cases change with
    | accepted _ held begun =>
      refine onward.served after ⟨?_, (ordered.withCache _).idle_leave held begun⟩ calm
      rw [leave_cache]
      exact TokenCache.token?_insert_self _ _ _
  · rintro later failure earlier caller account error rfl fails
    obtain ⟨before, move, onward⟩ := course.split
    have ordered := before.orderly empty
    have after := move.orderly ordered
    have change := move.change
    generalize failure.happening = happening at change fails
    generalize failure.after = start at change onward after
    cases change with
    | failed _ held begun =>
      cases fails
      obtain ⟨start, began, lacks⟩ := before.began empty (by simp) _ held begun
      refine ⟨rfl, start, began, fun quiet => ?_⟩
      have idle := ordered.idle_leave held begun
      exact onward.unserved after idle (by rwa [leave_cache]) quiet
    | _ => cases fails

/-! Two callers who want a token of the same account. -/

def sharedAccount : Account := ⟨⟨"library", by decide⟩, "u"⟩

def sharedToken : Token := ⟨"k", 2000, 3000⟩

/-- The share of a caller there, and the time by which its login has to end. -/
def standing (caller : Nat) (deadline : Option Nat) : Share := ⟨caller, sharedAccount, 0, deadline⟩

def opened : Logins := ((empty 8).arrive 0 sharedAccount 1000).2

def begun : Logins := (opened.enter (standing 0 none) 1000 750).2

def crowded : Logins := (begun.arrive 1 sharedAccount 1000).2

/-- The login of the first is accepted while the second waits. -/
def relieved : Logins := (crowded.finish (standing 0 (some 750)) (.ok sharedToken)).2

theorem one_login_for_all_two :
    ∃ past, Course (empty 8) past relieved ∧ relieved.mayEnter 1 = true ∧
      ∀ now deadline, sharedToken.isStale now = false →
        (relieved.enter (standing 1 none) now deadline).1 = some sharedToken := by
  have comes : Move (empty 8) 1000 _ opened := .arrived sharedAccount (by simp [Without, empty])
  have begins : Move opened 1000 _ begun :=
    @Move.entered opened 1000 0 (standing 0 none) 750 (by decide +kernel) (by decide +kernel)
  have free : begun.Without 1 := by
    have others : ∀ share ∈ begun.shares, share.caller ≠ 1 := by decide +kernel
    exact others
  have joins : Move begun 1000 _ crowded := .arrived sharedAccount free
  have succeeds : Move crowded 1000 _ relieved :=
    @Move.ended crowded 1000 0 (standing 0 (some 750)) (.ok sharedToken) (by decide +kernel) rfl
  have course := ((Course.nil.more comes).more begins |>.more joins).more succeeds
  obtain ⟨-, -, served, -⟩ := one_login_for_all course
  obtain ⟨-, -, -, -, next⟩ := served [] _ _ 0 sharedAccount sharedToken _ rfl rfl (by simp)
  have first : (relieved.queue sharedAccount).head? = some (standing 1 none) := by decide +kernel
  exact ⟨_, course, next _ first⟩

end SelfCheck.Logins
