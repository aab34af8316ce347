import SelfCheck.Rehearsal.Cast

/-! Playing several callers that need tokens at the same time.

Callers are looked after in their order, again and again, until none of them can go on; then time
passes until the next of them has something to do.
-/

set_option autoImplicit false

namespace SelfCheck.Rehearsal

/-- What a caller wants, when it begins, and how long it is patient after that. -/
structure CallerPlan where
  account : Account
  reply : LoginReply
  start : Nat
  patience : Nat

inductive CallerResult where
  | served (result : Except PlatformError Token)
  | gaveUp

/-- Where a caller stands. -/
inductive CallerState where
  | resting (wake : Nat)
  | waiting (patienceEnd : Nat)
  | loggingIn (patienceEnd reply : Nat)
  | done (result : CallerResult)

structure Caller where
  number : Nat
  plan : CallerPlan
  state : CallerState

/-- All callers while they are played. -/
structure Crowd where
  logins : Logins
  now : Time.Moment
  clock : Nat
  loginTimeout : Nat
  tallies : List Tally
  /-- The callers whose logins were made, the last one in front. -/
  called : List Nat

namespace Crowd

def count (crowd : Crowd) (tally : Tally) : Crowd :=
  { crowd with tallies := crowd.tallies ++ [tally] }

/-- The caller has its result. -/
def ended (caller : Caller) (result : Except PlatformError Token) : Caller :=
  { caller with state := .done (.served result) }

/-- A caller that is logging in looks for the reply. -/
def pollLogin (crowd : Crowd) (caller : Caller) (reply : Nat) : Crowd × Caller :=
  match crowd.logins.share? caller.number with
  | none => (crowd, caller)
  | some share =>
    let result? : Option (Except PlatformError Token) :=
      if reply ≤ crowd.clock then some (caller.plan.reply.value.map (·.at crowd.now))
      else if share.deadline.any (· ≤ crowd.clock) then some (.error .timeout)
      else none
    match result? with
    | none => (crowd, caller)
    | some result =>
      let (evicted, logins) := crowd.logins.finish share result
      let crowd := { crowd with logins }
      (if evicted.isSome then crowd.count .tokenEvicted else crowd, ended caller result)

/-- A caller at a gate goes in if it is its turn. -/
def pollGate (crowd : Crowd) (caller : Caller) (patienceEnd : Nat) : Crowd × Caller :=
  match crowd.logins.share? caller.number with
  | none => (crowd, caller)
  | some share =>
    if crowd.logins.mayEnter caller.number then
      match crowd.logins.enter share crowd.now (crowd.clock + crowd.loginTimeout) with
      | (some token, logins) => ({ crowd with logins }.count .tokenHit, ended caller (.ok token))
      | (none, logins) =>
        let reply := crowd.clock + caller.plan.reply.delay
        let crowd := { crowd with logins, called := caller.number :: crowd.called }
        pollLogin (crowd.count .tokenMiss)
          { caller with state := .loggingIn patienceEnd reply } reply
    else (crowd, caller)

/-- A caller begins. -/
def pollStart (crowd : Crowd) (caller : Caller) : Crowd × Caller :=
  let patienceEnd := crowd.clock + caller.plan.patience
  match crowd.logins.arrive caller.number caller.plan.account crowd.now with
  | (some token, logins) => ({ crowd with logins }.count .tokenHit, ended caller (.ok token))
  | (none, logins) =>
    pollGate { crowd with logins } { caller with state := .waiting patienceEnd } patienceEnd

/-- A caller that has lost its patience gives up what it has begun. -/
def giveUp (crowd : Crowd) (caller : Caller) : Crowd × Caller :=
  let patienceEnd? := match caller.state with
    | .waiting patienceEnd | .loggingIn patienceEnd _ => some patienceEnd
    | _ => none
  if patienceEnd?.any (· ≤ crowd.clock) then
    ({ crowd with logins := crowd.logins.leave caller.number }, { caller with state := .done .gaveUp })
  else (crowd, caller)

/-- Look after one caller. -/
def poll (crowd : Crowd) (caller : Caller) : Crowd × Caller :=
  let (crowd, caller) := match caller.state with
    | .resting wake => if wake ≤ crowd.clock then pollStart crowd caller else (crowd, caller)
    | .waiting patienceEnd => pollGate crowd caller patienceEnd
    | .loggingIn _ reply => pollLogin crowd caller reply
    | .done _ => (crowd, caller)
  giveUp crowd caller

/-- How far a caller has come. -/
def rank : CallerState → Nat
  | .resting _ => 0
  | .waiting _ => 1
  | .loggingIn .. => 2
  | .done _ => 3

def progress (callers : List Caller) : Nat :=
  callers.foldl (fun total caller => total + rank caller.state) 0

/-- Look after each caller once, in their order. -/
def round (crowd : Crowd) : List Caller → Crowd × List Caller
  | [] => (crowd, [])
  | caller :: callers =>
    let (crowd, caller) := poll crowd caller
    let (crowd, callers) := round crowd callers
    (crowd, caller :: callers)

/-- The times at which a caller has something to do. -/
def timers (crowd : Crowd) (caller : Caller) : List Nat :=
  match caller.state with
  | .resting wake => [wake]
  | .waiting patienceEnd => [patienceEnd]
  | .loggingIn patienceEnd reply =>
    patienceEnd :: reply ::
      ((crowd.logins.share? caller.number).bind (·.deadline)).toList
  | .done _ => []

/-- Play on until nobody has anything to do any more. Every round makes progress or lets time pass
up to a timer, of which each caller has four at most. -/
def play : Nat → Crowd → List Caller → Crowd × List Caller
  | 0, crowd, callers => (crowd, callers)
  | fuel + 1, crowd, callers =>
    let (crowd, after) := round crowd callers
    if progress callers < progress after then play fuel crowd after
    else match (after.flatMap (timers crowd)).filter (crowd.clock < ·) |>.min? with
      | some clock => play fuel { crowd with clock } after
      | none => (crowd, after)

/-- Play callers that all come at the same time. -/
def perform (crowd : Crowd) (plans : List CallerPlan) : Crowd × List Caller :=
  let callers := plans.zipIdx.map fun (plan, number) =>
    { number, plan, state := .resting (crowd.clock + plan.start) : Caller }
  play (8 * plans.length + 1) { crowd with called := [] } callers

end Crowd

end SelfCheck.Rehearsal
