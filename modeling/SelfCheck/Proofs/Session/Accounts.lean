import SelfCheck.Proofs.Session.Unexecuted

/-! What a session counts.

Each frame gets one reply and is counted once: by what is wrong with it, as a resend or a request
out of order, or, when its answer has been written, by the time this took. Only frames that ask for
the last answer are not counted at all. Failures and answers that cannot be rendered are counted
besides.
-/

set_option autoImplicit false

namespace SelfCheck

namespace Tally

/-- Tallies of command durations, one for each answer. -/
def isSample : Tally → Bool
  | answered _ => true
  | _ => false

/-- Tallies that stand for one reply each. -/
def isReply : Tally → Bool
  | malformed _ | resend | invalidMessage | answered _ => true
  | _ => false

/-- Tallies of replies and of what is wrong with answers. -/
def isAccount : Tally → Bool
  | requestError | responseError => true
  | tally => tally.isReply

theorem isAccount_of_isReply {tally : Tally} (reply : tally.isReply = true) :
    tally.isAccount = true := by
  cases tally <;> first | rfl | cases reply

theorem isAccount_of_errors {tally : Tally} {counter : Counter}
    (errors : counter = .requestErrors ∨ counter = .responseErrors)
    (counted : tally.counter? = some counter) : tally.isAccount = true := by
  rcases errors with rfl | rfl
  all_goals
    cases tally with
    | malformed kind => cases kind <;> cases counted
    | requestError | responseError => rfl
    | _ => cases counted

/-- Each reply is in one counter, or is a duration. -/
theorem countP_isReply (tallies : List Tally) :
    total .badChecksums tallies + total .missingDelimiters tallies +
      total .otherMalformed tallies + total .resends tallies + total .invalidMessages tallies +
      tallies.countP isSample = tallies.countP isReply := by
  induction tallies with
  | nil => rfl
  | cons tally tallies ih =>
    simp only [total, List.countP_cons] at ih ⊢
    have own : (if counter? tally = some .badChecksums then 1 else 0) +
        (if counter? tally = some .missingDelimiters then 1 else 0) +
        (if counter? tally = some .otherMalformed then 1 else 0) +
        (if counter? tally = some .resends then 1 else 0) +
        (if counter? tally = some .invalidMessages then 1 else 0) +
        (if isSample tally = true then 1 else 0) = if isReply tally = true then 1 else 0 := by
      cases tally with
      | malformed kind => cases kind <;> rfl
      | _ => rfl
    simp only [decide_eq_true_eq] at ih ⊢
    omega

end Tally

namespace Effect

/-- The tallies among some effects that account for replies and answers. -/
def accounts (effects : List Effect) : List Tally := (tallies effects).filter Tally.isAccount

theorem accounts_append (earlier later : List Effect) :
    accounts (earlier ++ later) = accounts earlier ++ accounts later := by
  simp [accounts, tallies]

/-- Accounts are all that counts where only accounts are counted. -/
theorem countP_accounts {test : Tally → Bool}
    (own : ∀ tally, test tally = true → tally.isAccount = true) (effects : List Effect) :
    (tallies effects).countP test = (accounts effects).countP test := by
  rw [accounts, List.countP_filter]
  apply List.countP_congr
  intro tally _
  simp only [Bool.and_eq_true]
  exact ⟨fun passes => ⟨passes, own tally passes⟩, And.left⟩

end Effect

namespace Dispatch

variable {setup : Setup} {caller : Nat} {message : Message} {wish : TokenWish} {shared : Shared}
  {context : Context}

/-! Handlers keep no accounts: they count tokens and logins. -/

theorem after_unaccounted {effects : List Effect} {stretch : Stretch}
    (before : Effect.accounts effects = []) (own : Effect.accounts stretch.effects = []) :
    Effect.accounts (Stretch.after effects stretch).effects = [] := by
  change Effect.accounts (effects ++ stretch.effects) = []
  rw [Effect.accounts_append, before, own]
  rfl

theorem granted_unaccounted (result : Except PlatformError Token) :
    Effect.accounts (granted message wish result shared context).effects = [] := by
  unfold granted
  split
  · rfl
  · rfl
  · rfl
  · split <;> rfl

theorem enter_unaccounted (share : Logins.Share) :
    Effect.accounts (enter setup message wish share shared context).effects = [] := by
  unfold enter
  split
  · exact after_unaccounted rfl (granted_unaccounted _)
  · rfl

theorem wantToken_unaccounted :
    Effect.accounts (wantToken setup caller message wish shared context).effects = [] := by
  unfold wantToken
  split
  · exact after_unaccounted rfl (granted_unaccounted _)
  · dsimp only
    split
    · rfl
    · split
      · exact enter_unaccounted _
      · rfl

theorem loginEnded_unaccounted (share : Logins.Share) (result : Except PlatformError Token) :
    Effect.accounts (loginEnded message wish share result shared context).effects = [] := by
  unfold loginEnded
  dsimp only
  apply after_unaccounted _ (granted_unaccounted _)
  split <;> rfl

theorem platformAnswered_unaccounted (account : Account) (result : Except PlatformError Json) :
    Effect.accounts (platformAnswered setup message account result shared context).effects = [] := by
  unfold platformAnswered
  split
  · split <;> rfl
  · rfl
  · rfl

theorem start_unaccounted :
    Effect.accounts (start setup caller message shared context).effects = [] := by
  unfold start
  split
  · rfl
  · unfold login
    dsimp only
    split
    · rfl
    · split
      · rfl
      · split
        · rfl
        · exact wantToken_unaccounted
  · unfold status
    split <;> rfl
  · unfold forward
    split
    · rfl
    · rfl
    · exact wantToken_unaccounted
  · rfl

theorem resume?_unaccounted {wait : Wait} {reply : Reply} {stretch : Stretch}
    (resumes : resume? setup caller message wait shared context reply = some stretch) :
    Effect.accounts stretch.effects = [] := by
  cases resumption_of_resume? resumes with
  | admitted => exact enter_unaccounted _
  | login result => exact loginEnded_unaccounted _ result
  | platform account result => exact platformAnswered_unaccounted account result
  | handler => rfl

end Dispatch

/-- What is counted for the answer to a request. -/
def Outcome.accounts (setup : Setup) (message : Message) (outcome : Outcome) : List Tally :=
  (if outcome.isSuccess then [] else [.requestError]) ++
    (match Turn.rendered setup.templates message outcome with
      | .ok _ => []
      | .error _ => [.responseError]) ++
    [.answered message.command]

namespace Deed

/-- Whether something is answered at once, and not executed. -/
def isDismissed : Deed → Bool
  | malformed .. | asked .. | repeated .. | misplaced .. | overlong _ => true
  | _ => false

def isOverlong : Deed → Bool
  | overlong _ => true
  | _ => false

def isAsked : Deed → Bool
  | asked .. => true
  | _ => false

/-- What is counted in a move. -/
def accounts (setup : Setup) : Deed → List Tally
  | malformed _ fault => [.malformed fault.kind]
  | repeated .. => [.resend]
  | misplaced .. => [.invalidMessage]
  | overlong _ => [.malformed .frameTooLarge]
  | deed => (deed.outcome?.map fun (message, outcome) => outcome.accounts setup message).getD []

end Deed

/-- Whether a frame that asks for the last answer is taken up. -/
def Episode.isReminder (episode : Episode) : Bool :=
  episode.deed.frame?.any fun frame =>
    let message? := (Message.read frame (Session.fieldDelimiter episode.before.settings)).toOption
    message?.any (·.command = some .requestAcsResend)

namespace Turn

variable {setup : Setup} {caller : Nat} {turn after : Turn} {deed : Deed}

/-- What a turn has counted of replies and answers. -/
def accounts (turn : Turn) : List Tally := Effect.accounts turn.effects

@[simp] theorem count_accounts (turn : Turn) (tally : Tally) :
    (turn.count tally).accounts = turn.accounts ++ [tally].filter Tally.isAccount :=
  Effect.accounts_append _ _

theorem write_accounts (turn : Turn) (linked : turn.session.brokenLink = none)
    (bytes : List UInt8) : (turn.write bytes).accounts = turn.accounts := by
  simp [write, linked, accounts, Effect.accounts, Effect.tallies, Effect.tally?]

theorem repeatAnswer_accounts (turn : Turn) (linked : turn.session.brokenLink = none) :
    turn.repeatAnswer.accounts = turn.accounts := by
  unfold repeatAnswer
  split
  · exact write_accounts turn linked _
  · exact write_accounts turn linked _

@[simp] theorem finish_accounts (turn : Turn) (ending : Ending) :
    (turn.finish ending).accounts = turn.accounts := by
  simp [finish, accounts, count, Effect.accounts, Effect.tallies, Effect.tally?, Tally.isAccount,
    Tally.isReply]

@[simp] theorem conclude_accounts (turn : Turn) (ending : Ending) :
    (turn.conclude ending).accounts = turn.accounts := by
  unfold conclude
  cases ending <;> simp [Ending.tally?, Tally.isAccount, Tally.isReply]

theorem answerTallies_accounts (turn : Turn) (message : Message) (outcome : Outcome) :
    Effect.accounts (answerTallies outcome (rendered setup.templates message outcome) ++
      [.write (turn.response setup message outcome), .count (.answered message.command)]) =
        outcome.accounts setup message := by
  unfold answerTallies Outcome.accounts
  cases outcome.isSuccess <;> cases rendered setup.templates message outcome <;> rfl

/-- An answer that is written counts as a duration, with a failure and a rendering that goes
wrong. -/
theorem answer_accounts (turn : Turn) (linked : turn.session.brokenLink = none)
    (message : Message) (outcome : Outcome) :
    (turn.answer setup message outcome).accounts =
      turn.accounts ++ outcome.accounts setup message := by
  have whole : (turn.answered setup message outcome).accounts =
      turn.accounts ++ outcome.accounts setup message := by
    rw [← answerTallies_accounts turn]
    simp [accounts, answered, Effect.accounts_append]
  rw [answer_linked linked]
  split
  · rw [finish_accounts, whole]
  · exact whole

theorem proceed_accounts (turn : Turn) (linked : turn.session.brokenLink = none)
    (message : Message) (deadline : Nat) {stretch : Stretch}
    (unaccounted : Effect.accounts stretch.effects = []) :
    (turn.proceed setup message deadline stretch).accounts = turn.accounts ++
      (stretch.result?.map fun result =>
        (Dispatch.outcome message result).accounts setup message).getD [] := by
  cases stage : stretch.stage with
  | waiting wait =>
    rw [proceed_of_waiting stage]
    simp [accounts, Effect.accounts_append, unaccounted, Stretch.result?, stage]
  | finished result =>
    rw [proceed_of_finished stage, answer_accounts]
    · simp [accounts, Effect.accounts_append, unaccounted, Stretch.result?, stage]
    · exact linked

/-- What is counted in a move depends on its deed only. -/
theorem Move.accounts_eq (move : Move setup caller turn deed after)
    (linked : turn.session.brokenLink = none) :
    after.accounts = turn.accounts ++ deed.accounts setup := by
  cases move with
  | malformed =>
    exact (write_accounts (turn.count _) linked _).trans (count_accounts _ _)
  | asked => exact (repeatAnswer_accounts turn linked).trans (List.append_nil _).symm
  | repeated => exact (repeatAnswer_accounts (turn.count _) linked).trans (count_accounts _ _)
  | misplaced => exact (write_accounts (turn.count _) linked _).trans (count_accounts _ _)
  | refused => exact answer_accounts turn linked _ _
  | dispatched =>
    rw [proceed_accounts turn linked _ _ Dispatch.start_unaccounted]
    simp [Deed.accounts, Deed.outcome?, Function.comp_def]
  | resumed _ resumes =>
    rw [proceed_accounts turn linked _ _ (Dispatch.resume?_unaccounted resumes)]
    simp [Deed.accounts, Deed.outcome?, Function.comp_def]
  | late =>
    unfold expire
    rw [answer_accounts]
    · rfl
    · exact linked
  | overlong =>
    exact (write_accounts ((turn.withBuffer []).count _) linked _).trans (count_accounts _ _)
  | ended => exact (conclude_accounts _ _).trans (List.append_nil _).symm
  | stored => exact (List.append_nil _).symm
  | waited => exact (List.append_nil _).symm
  | severed => exact (List.append_nil _).symm

theorem Move.dismisses (move : Move setup caller turn deed after)
    (linked : turn.session.brokenLink = none) (dismissed : deed.isDismissed = true) :
    ∃ bytes, after.written = turn.written ++ [bytes] := by
  cases move with
  | malformed => exact ⟨_, (rejectMalformed_tells turn linked _).written⟩
  | asked => exact ⟨_, (repeatAnswer_tells turn linked).written⟩
  | repeated => exact ⟨_, (repeatAnswer_tells (turn.count _) linked).counted.written⟩
  | misplaced => exact ⟨_, (askAgain_tells (turn.count _) linked).counted.written⟩
  | overlong => exact ⟨_, (rejectMalformed_tells (turn.withBuffer []) linked _).written⟩
  | _ => cases dismissed

theorem proceed_mute (turn : Turn) (message : Message) (deadline : Nat) {stretch : Stretch}
    (unwritten : stretch.effects.filterMap Effect.written? = [])
    (unfinished : stretch.result? = none) :
    (turn.proceed setup message deadline stretch).written = turn.written := by
  cases stage : stretch.stage with
  | waiting wait =>
    rw [proceed_of_waiting stage]
    simp [written, unwritten]
  | finished result => simp [Stretch.result?, stage] at unfinished

theorem conclude_written (turn : Turn) (ending : Ending) :
    (turn.conclude ending).written = turn.written := by
  unfold conclude finish
  cases ending.tally? <;> simp [written, count, Effect.written?]

/-- Whoever neither answers a request nor dismisses a frame writes nothing. -/
theorem Move.mute (move : Move setup caller turn deed after) (kept : deed.isDismissed = false)
    (unanswered : deed.outcome? = none) : after.written = turn.written := by
  cases move with
  | dispatched =>
    exact proceed_mute turn _ _ Dispatch.start_unwritten (Option.map_eq_none_iff.mp unanswered)
  | resumed _ resumes =>
    exact proceed_mute turn _ _ (Dispatch.resume?_offWire resumes).unwritten
      (Option.map_eq_none_iff.mp unanswered)
  | ended => exact conclude_written turn _
  | stored => rfl
  | waited => rfl
  | severed => rfl
  | refused | late => cases unanswered
  | _ => cases kept

/-- Dismissals and answers are written, and nothing else. -/
theorem Move.length_written (move : Move setup caller turn deed after)
    (linked : turn.session.brokenLink = none) :
    after.written.length = turn.written.length + (if deed.isDismissed then 1 else 0) +
      deed.outcome?.toList.length := by
  cases done : deed.outcome? with
  | some told =>
    have kept : deed.isDismissed = false := by
      cases deed <;> first | rfl | cases done
    obtain ⟨message, outcome⟩ := told
    obtain ⟨bytes, wrote, -⟩ := (move.answers linked done).kept
    simp [wrote, kept]
  | none =>
    cases dismissed : deed.isDismissed with
    | true =>
      obtain ⟨bytes, wrote⟩ := move.dismisses linked dismissed
      simp [wrote]
    | false => simp [move.mute dismissed done]

theorem Move.isReminder_eq (move : Move setup caller turn deed after) :
    Episode.isReminder ⟨turn, deed, after⟩ = deed.isAsked := by
  cases move with
  | malformed _ fails =>
    simp [Episode.isReminder, Deed.frame?, fails, Except.toOption, Deed.isAsked]
  | asked _ reads asks =>
    simp [Episode.isReminder, Deed.frame?, reads, asks, Except.toOption, Deed.isAsked]
  | repeated _ reads request | misplaced _ reads request | refused _ reads request
  | dispatched _ reads request =>
    simp [Episode.isReminder, Deed.frame?, reads, request, Except.toOption, Deed.isAsked]
  | _ => rfl

end Turn

/-- Whether there is no body for the answer to a request. -/
def Outcome.isBlank (setup : Setup) (message : Message) (outcome : Outcome) : Bool :=
  (Turn.rendered setup.templates message outcome).toOption.isNone

theorem Outcome.accounts_sums (setup : Setup) (message : Message) (outcome : Outcome) :
    (outcome.accounts setup message).countP Tally.isReply = 1 ∧
      Tally.total .requestErrors (outcome.accounts setup message) =
        (!outcome.isSuccess).toNat ∧
      Tally.total .responseErrors (outcome.accounts setup message) =
        (outcome.isBlank setup message).toNat := by
  unfold accounts isBlank
  cases outcome.isSuccess <;> cases Turn.rendered setup.templates message outcome <;>
    exact ⟨rfl, rfl, rfl⟩

namespace Deed

variable {deed : Deed} {message : Message} {outcome : Outcome}

theorem accounts_of_answered (done : deed.outcome? = some (message, outcome)) (setup : Setup) :
    deed.accounts setup = outcome.accounts setup message ∧ deed.isDismissed = false ∧
      deed.isAsked = false := by
  cases deed with
  | refused | dispatched | resumed | late => simp [accounts, done, isDismissed, isAsked]
  | _ => cases done

/-- What is taken up or given up is dismissed or executed. -/
theorem taken_eq (deed : Deed) :
    deed.frame?.toList.length + (if deed.isOverlong then 1 else 0) =
      (if deed.isDismissed then 1 else 0) + deed.executed?.toList.length := by
  cases deed <;> rfl

/-- Each dismissal and each answer is counted as one reply, unless it is asked for. -/
theorem replies_eq (setup : Setup) (deed : Deed) :
    (deed.accounts setup).countP Tally.isReply + (if deed.isAsked then 1 else 0) =
      (if deed.isDismissed then 1 else 0) + deed.outcome?.toList.length := by
  cases done : deed.outcome? with
  | some told =>
    obtain ⟨same, kept, unasked⟩ := accounts_of_answered done setup
    rw [same, kept, unasked, (told.2.accounts_sums setup told.1).1]
    rfl
  | none => cases deed <;> simp_all [accounts, isAsked, isDismissed, outcome?, Tally.isReply]

/-- Failures and answers without a body are counted, each once. -/
theorem errors_eq (setup : Setup) (deed : Deed) :
    Tally.total .requestErrors (deed.accounts setup) =
        deed.outcome?.toList.countP (fun told => !told.2.isSuccess) ∧
      Tally.total .responseErrors (deed.accounts setup) =
        deed.outcome?.toList.countP (fun told => told.2.isBlank setup told.1) := by
  cases done : deed.outcome? with
  | some told =>
    obtain ⟨same, -⟩ := accounts_of_answered done setup
    obtain ⟨-, failures, blanks⟩ := told.2.accounts_sums setup told.1
    rw [same, failures, blanks]
    cases failed : told.2.isSuccess <;> cases blank : told.2.isBlank setup told.1 <;>
      simp [failed, blank]
  | none =>
    cases deed with
    | malformed frame fault => cases fault <;> exact ⟨rfl, rfl⟩
    | _ => simp_all [accounts, outcome?, Tally.total, Tally.counter?]

end Deed

namespace Record

/-- What is done in some moves, in their order. -/
def effects (past : List Episode) : List Effect := past.reverse.flatMap (·.after.effects)

/-- The requests that are answered with their outcomes, the latest first. -/
def outcomes (past : List Episode) : List (Message × Outcome) :=
  past.filterMap (·.deed.outcome?)

theorem effects_cons (episode : Episode) (past : List Episode) :
    effects (episode :: past) = effects past ++ episode.after.effects := by
  simp [effects]

theorem outcomes_cons (episode : Episode) (past : List Episode) :
    outcomes (episode :: past) = episode.deed.outcome?.toList ++ outcomes past := by
  cases outcome : episode.deed.outcome? <;> simp [outcomes, outcome]

theorem map_outcomes (past : List Episode) : (outcomes past).map Prod.fst = answered past :=
  List.map_filterMap

/-- What is taken up or given up is dismissed or executed. -/
theorem taken_eq (past : List Episode) :
    (taken past).length + past.countP (·.deed.isOverlong) =
      past.countP (·.deed.isDismissed) + (executed past).length := by
  induction past with
  | nil => rfl
  | cons episode past ih =>
    have own := episode.deed.taken_eq
    rw [taken_cons, executed_cons, List.length_append, List.length_append, List.countP_cons,
      List.countP_cons]
    omega

/-- The books of some moves. -/
structure Balanced (setup : Setup) (past : List Episode) : Prop where
  replies : (Effect.tallies (effects past)).countP Tally.isReply +
    past.countP Episode.isReminder = ((effects past).filterMap Effect.written?).length
  written : ((effects past).filterMap Effect.written?).length =
    past.countP (·.deed.isDismissed) + (outcomes past).length
  failures : Tally.total .requestErrors (Effect.tallies (effects past)) =
    (outcomes past).countP fun told => !told.2.isSuccess
  blanks : Tally.total .responseErrors (Effect.tallies (effects past)) =
    (outcomes past).countP fun told => told.2.isBlank setup told.1

end Record

namespace Effect

theorem tallies_append (earlier later : List Effect) :
    tallies (earlier ++ later) = tallies earlier ++ tallies later :=
  List.filterMap_append

end Effect

namespace Session

variable {setup : Setup} {caller : Nat} {origin session : Session} {past : List Episode}
  {shared : Shared} {deed : Deed} {turn : Turn}

/-- What a session counts of replies and answers in one move. -/
theorem countP_move (move : Turn.Move setup caller (session.turn shared) deed turn)
    (linked : session.brokenLink = none) {test : Tally → Bool}
    (own : ∀ tally, test tally = true → tally.isAccount = true) :
    (Effect.tallies turn.effects).countP test = (deed.accounts setup).countP test := by
  rw [Effect.countP_accounts own]
  exact congrArg (List.countP test) (move.accounts_eq linked)

theorem balanced_move (balanced : Record.Balanced setup past)
    (move : Turn.Move setup caller (session.turn shared) deed turn)
    (linked : session.brokenLink = none) :
    Record.Balanced setup (⟨session.turn shared, deed, turn⟩ :: past) := by
  have wrote : (turn.effects.filterMap Effect.written?).length =
      0 + (if deed.isDismissed then 1 else 0) + deed.outcome?.toList.length :=
    move.length_written linked
  have replies := deed.replies_eq setup
  have counted : (Effect.tallies turn.effects).countP Tally.isReply =
      (deed.accounts setup).countP Tally.isReply :=
    countP_move move linked fun _ => Tally.isAccount_of_isReply
  obtain ⟨failures, blanks⟩ := deed.errors_eq setup
  rw [Tally.total, ← countP_move move linked fun _ counted =>
    Tally.isAccount_of_errors (.inl rfl) (of_decide_eq_true counted)] at failures
  rw [Tally.total, ← countP_move move linked fun _ counted =>
    Tally.isAccount_of_errors (.inr rfl) (of_decide_eq_true counted)] at blanks
  obtain ⟨replied, written, failed, blank⟩ := balanced
  constructor
  · rw [Record.effects_cons, Effect.tallies_append, List.countP_append, List.countP_cons,
      List.filterMap_append, List.length_append, move.isReminder_eq]
    dsimp only
    omega
  · rw [Record.effects_cons, Record.outcomes_cons, List.filterMap_append, List.length_append,
      List.length_append, List.countP_cons]
    dsimp only
    omega
  · rw [Record.effects_cons, Record.outcomes_cons, Effect.tallies_append, Tally.total_append,
      List.countP_append, failed, Nat.add_comm]
    exact congrArg (· + _) failures
  · rw [Record.effects_cons, Record.outcomes_cons, Effect.tallies_append, Tally.total_append,
      List.countP_append, blank, Nat.add_comm]
    exact congrArg (· + _) blanks

theorem Course.balanced (course : Course setup caller origin past session)
    (linked : session.brokenLink = none) : Record.Balanced setup past := by
  -- A link that works now has worked at every move before.
  induction course with
  | nil => exact ⟨rfl, rfl, rfl, rfl⟩
  | more _ move ih =>
    have before := move.linked linked
    exact balanced_move (ih before) move before

/-- A session begins without a reply. -/
theorem start_unaccounted (setup : Setup) (shared : Shared) (name : String)
    (peer : Net.SocketAddress) (port : Nat) :
    Effect.accounts (start setup shared name peer port).effects = [] ∧
      (start setup shared name peer port).effects.filterMap Effect.written? = [] := by
  unfold start
  dsimp only
  split
  · split <;> exact ⟨rfl, rfl⟩
  · split <;> exact ⟨rfl, rfl⟩

/-- Everything is counted exactly once. In any run of a session over a link that works: each reply
that is written, to a frame or to what is too large for one, is in one of five counters, is an
answer with its duration, or is what a terminal that asked for the last answer got. Each frame and
each piece that is too large gets one reply, except for the request that is still handled. The
requests executed are that one and those that have been answered; of these, the failures are the
request errors, and those for which there was no body are the response errors. -/
theorem replies_counted_once {name : String} {peer : Net.SocketAddress} {port : Nat}
    (course : Course setup caller (start setup shared name peer port).session past session)
    (linked : session.brokenLink = none) :
    let effects := (start setup shared name peer port).effects ++ Record.effects past
    let total (counter : Tally.Counter) := Tally.total counter (Effect.tallies effects)
    let replies := (effects.filterMap Effect.written?).length
    total .badChecksums + total .missingDelimiters + total .otherMalformed + total .resends +
        total .invalidMessages + past.countP Episode.isReminder +
        (Effect.tallies effects).countP Tally.isSample = replies ∧
      replies + session.pending?.toList.length =
        (Record.taken past).length + past.countP (·.deed.isOverlong) ∧
      Record.executed past = session.pending?.toList ++ (Record.outcomes past).map Prod.fst ∧
      total .requestErrors = (Record.outcomes past).countP (fun told => !told.2.isSuccess) ∧
      total .responseErrors =
        (Record.outcomes past).countP fun told => told.2.isBlank setup told.1 := by
  intro effects total replies
  obtain ⟨unaccounted, unwritten⟩ := start_unaccounted setup shared name peer port
  obtain ⟨replied, written, failed, blank⟩ := course.balanced linked
  have settles := course.settles (start_recalls setup shared name peer port).settles
  have taken := Record.taken_eq past
  have same {test : Tally → Bool} (own : ∀ tally, test tally = true → tally.isAccount = true) :
      (Effect.tallies effects).countP test =
        (Effect.tallies (Record.effects past)).countP test := by
    rw [Effect.countP_accounts own, Effect.countP_accounts own, Effect.accounts_append,
      unaccounted]
    rfl
  have wrote : replies = ((Record.effects past).filterMap Effect.written?).length := by
    unfold replies effects
    rw [List.filterMap_append, unwritten]
    rfl
  refine ⟨?_, ?_, ?_, ?_, ?_⟩
  · have sums := Tally.countP_isReply (Effect.tallies effects)
    have counted : (Effect.tallies effects).countP Tally.isReply =
        (Effect.tallies (Record.effects past)).countP Tally.isReply :=
      same fun _ => Tally.isAccount_of_isReply
    unfold total
    omega
  · have executed := congrArg List.length settles
    rw [List.length_append, ← Record.map_outcomes, List.length_map] at executed
    omega
  · rw [Record.map_outcomes]
    exact settles
  · rw [← failed]
    exact same fun _ counted => Tally.isAccount_of_errors (.inl rfl) (of_decide_eq_true counted)
  · rw [← blank]
    exact same fun _ counted => Tally.isAccount_of_errors (.inr rfl) (of_decide_eq_true counted)

/-- A desk with small frames, where no command has a template. -/
def wordless : Setup :=
  { Desk.setup with maxFrame := 40, templates := { Templates.bundled with commands := [] } }

/-- A login with a wrong checksum, one that is refused and sent twice, a frame that asks for the
last answer, a login out of order, and bytes that are no frame. -/
def stumbling : List UInt8 :=
  Text.bytesOf "9300CN|CO|AY4AZ0000\r" ++
    Frame.encode "9300CN|CO|" (.sequenced 4) Frame.carriageReturn ++
    Frame.encode "9300CN|CO|" (.sequenced 4) Frame.carriageReturn ++
    Frame.encode "97" .checksum Frame.carriageReturn ++
    Frame.encode "9300CN|CO|" (.sequenced 7) Frame.carriageReturn ++ List.replicate 41 65

theorem replies_counted_once_stumbling :
    let shared := Desk.shared (Desk.policy true []) (.empty 8)
    let origin := start wordless shared "s" Desk.terminal 6443
    ∃ past session, Course wordless 0 origin.session past session ∧
      ((origin.effects ++ Record.effects past).filterMap Effect.written?).length = 6 ∧
      (Record.taken past).length + past.countP (·.deed.isOverlong) = 6 ∧
      past.countP Episode.isReminder = 1 ∧
      (Record.outcomes past).countP (fun told => !told.2.isSuccess) = 1 ∧
      (Record.outcomes past).countP (fun told => told.2.isBlank wordless told.1) = 1 := by
  intro shared origin
  have works : (origin.session.play? wordless 0 [(shared, .received stumbling)]).any
      (fun played => played.2.brokenLink = none && played.2.pending?.isNone &&
        (let effects := origin.effects ++ played.1
        let tallies := Effect.tallies effects
        (Tally.Counter.all.map (Tally.total · tallies) = [1, 0, 1, 1, 1, 1, 1, 0, 1]) &&
          tallies.countP Tally.isSample = 1 &&
          (effects.filterMap Effect.written?).length = 6)) = true := by decide +kernel
  obtain ⟨⟨effects, session⟩, plays, seen⟩ := (Option.any_eq_true _ _).mp works
  simp only [Bool.and_eq_true, decide_eq_true_eq, Option.isNone_iff_eq_none] at seen
  obtain ⟨⟨linked, idle⟩, ⟨counters, samples⟩, writes⟩ := seen
  obtain ⟨past, course, rfl⟩ := Course.nil.play? plays
  rw [List.append_nil] at course
  obtain ⟨replied, taken, -, failed, blank⟩ := replies_counted_once course linked
  simp only [Tally.Counter.all, List.map_cons, List.map_nil, List.cons.injEq] at counters
  obtain ⟨-, -, requests, responses, resends, invalid, bad, missing, other, -⟩ := counters
  refine ⟨past, session, course, writes, ?_, ?_, failed.symm.trans requests,
    blank.symm.trans responses⟩
  · rw [← taken, idle]
    exact writes
  · have same : past.reverse.flatMap (·.after.effects) = Record.effects past := rfl
    simp only [origin, same] at resends invalid bad missing other samples writes
    dsimp only at replied
    rw [bad, missing, other, resends, invalid, samples, writes] at replied
    omega

end Session

end SelfCheck
