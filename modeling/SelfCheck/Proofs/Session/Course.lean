import SelfCheck.Proofs.Session.Move

/-! The courses that a session can take.

Between two moves of a session everything that it shares with others may change. A course leaves it
open how: a law of courses holds whatever other sessions, the clocks and the operator do.
-/

set_option autoImplicit false

namespace SelfCheck

/-- A session from its origin on, with its moves on record, the latest first. -/
inductive Session.Course (setup : Setup) (caller : Nat) (origin : Session) :
    List Episode → Session → Prop where
  | nil : Course setup caller origin [] origin
  | more {past : List Episode} {session : Session} {shared : Shared} {deed : Deed} {turn : Turn} :
      Course setup caller origin past session →
      Turn.Move setup caller (session.turn shared) deed turn →
      Course setup caller origin (⟨session.turn shared, deed, turn⟩ :: past) turn.session

namespace Turn

variable {setup : Setup} {caller : Nat}

/-! Answering. -/

/-- The bytes of the answer to a request. -/
def response (setup : Setup) (turn : Turn) (message : Message) (outcome : Outcome) : List UInt8 :=
  answerBytes turn.settings message
    (delimited turn.settings ((rendered setup.templates message outcome).toOption.getD ""))

/-- A turn whose request has been answered over a link that works. -/
def answered (setup : Setup) (turn : Turn) (message : Message) (outcome : Outcome) : Turn :=
  { turn with
    session := { turn.session with
      sequence := turn.session.sequence.advance message
      lastAnswer := some (turn.response setup message outcome)
      activity := .reading turn.shared.clock }
    effects := turn.effects ++ answerTallies outcome (rendered setup.templates message outcome) ++
      [.write (turn.response setup message outcome), .count (.answered message.command)] }

theorem answer_linked {turn : Turn} (linked : turn.session.brokenLink = none) (message : Message)
    (outcome : Outcome) :
    turn.answer setup message outcome =
      if endsSession turn.settings message outcome then
        (turn.answered setup message outcome).finish .endOfPatron
      else turn.answered setup message outcome := by
  unfold answer write
  simp only [linked, Session.isReading, ↓reduceIte]
  simp [answered, response, count, settings, linked]

theorem answer_severed {turn : Turn} {text : String}
    (severed : turn.session.brokenLink = some text) (message : Message) (outcome : Outcome) :
    (turn.answer setup message outcome).session =
      { turn.session with
        context := turn.session.context.close
        sequence := turn.session.sequence.advance message
        lastAnswer := some (turn.response setup message outcome)
        activity := .over (.writeFault text) } := by
  unfold answer write
  simp [severed, Session.isReading, finish, count, response, settings]

@[simp] theorem count_session (turn : Turn) (tally : Tally) :
    (turn.count tally).session = turn.session := rfl

@[simp] theorem count_shared (turn : Turn) (tally : Tally) :
    (turn.count tally).shared = turn.shared := rfl

@[simp] theorem finish_shared (turn : Turn) (ending : Ending) :
    (turn.finish ending).shared = turn.shared := rfl

@[simp] theorem write_shared (turn : Turn) (bytes : List UInt8) :
    (turn.write bytes).shared = turn.shared := by
  unfold write
  split <;> rfl

@[simp] theorem answer_shared (turn : Turn) (message : Message) (outcome : Outcome) :
    (turn.answer setup message outcome).shared = turn.shared := by
  unfold answer
  dsimp only
  split
  · split <;> simp
  · simp

@[simp] theorem askAgain_shared (turn : Turn) : turn.askAgain.shared = turn.shared :=
  write_shared turn _

@[simp] theorem repeatAnswer_shared (turn : Turn) : turn.repeatAnswer.shared = turn.shared := by
  unfold repeatAnswer
  split <;> simp

@[simp] theorem conclude_shared (turn : Turn) (ending : Ending) :
    (turn.conclude ending).shared = turn.shared := by
  unfold conclude
  cases ending.tally? <;> rfl

/-! Calls to somebody outside: only handlers make them. -/

/-- The calls in a turn. -/
def calls (turn : Turn) : List Effect := turn.effects.filter Effect.isCall

@[simp] theorem count_calls (turn : Turn) (tally : Tally) :
    (turn.count tally).calls = turn.calls := by
  simp [calls, count, Effect.isCall]

@[simp] theorem finish_calls (turn : Turn) (ending : Ending) :
    (turn.finish ending).calls = turn.calls := by
  unfold finish
  rw [count_calls]
  rfl

@[simp] theorem write_calls (turn : Turn) (bytes : List UInt8) :
    (turn.write bytes).calls = turn.calls := by
  unfold write
  cases turn.session.brokenLink with
  | none => simp [calls, Effect.isCall]
  | some text => simp

@[simp] theorem repeatAnswer_calls (turn : Turn) : turn.repeatAnswer.calls = turn.calls := by
  unfold repeatAnswer
  split
  · exact write_calls turn _
  · exact write_calls turn _

theorem answerTallies_calls (outcome : Outcome) (body : Except RenderError String) :
    (answerTallies outcome body).filter Effect.isCall = [] := by
  unfold answerTallies
  cases outcome.isSuccess <;> cases body <;> rfl

@[simp] theorem answer_calls (turn : Turn) (message : Message) (outcome : Outcome) :
    (turn.answer setup message outcome).calls = turn.calls := by
  have counted (session : Session) (body : Except RenderError String) :
      ({ turn with session, effects := turn.effects ++ answerTallies outcome body } : Turn).calls =
        turn.calls := by
    simp [calls, answerTallies_calls]
  unfold answer
  dsimp only
  split
  · split
    · rw [finish_calls, count_calls, write_calls, counted]
    · rw [count_calls, write_calls, counted]
  · rw [write_calls, counted]

@[simp] theorem conclude_calls (turn : Turn) (ending : Ending) :
    (turn.conclude ending).calls = turn.calls := by
  unfold conclude
  cases ending.tally? <;> simp

end Turn

namespace Session

/-- The request that a session is in the middle of. -/
def pending? (session : Session) : Option Message :=
  match session.activity with
  | .handling message _ _ => some message
  | _ => none

theorem pending?_of_isReading {session : Session} (reading : session.isReading = true) :
    session.pending? = none := by
  unfold isReading at reading
  unfold pending?
  cases activity : session.activity <;> simp_all

theorem ending?_of_isReading {session : Session} (reading : session.isReading = true) :
    session.ending? = none := by
  unfold isReading at reading
  unfold ending?
  split at reading
  · next waits => rw [waits]
  · cases reading

theorem pending?_of_handling {session : Session} {message : Message} {wait : Wait} {deadline : Nat}
    (handling : session.activity = .handling message wait deadline) :
    session.pending? = some message := by
  simp [pending?, handling]

theorem handling_of_pending? {session : Session} {message : Message}
    (pending : session.pending? = some message) :
    ∃ wait deadline, session.activity = .handling message wait deadline := by
  unfold pending? at pending
  split at pending
  · next waits =>
    cases pending
    exact ⟨_, _, waits⟩
  · cases pending

/-- A session whose context is as given, or closed. -/
def Keeps (session : Session) (context : Context) : Prop :=
  session.context = context ∨ session.context = context.close

theorem Keeps.eq_of_authenticated {session : Session} {context : Context}
    (keeps : session.Keeps context) (authenticated : session.context.isAuthenticated = true) :
    session.context = context := by
  rcases keeps with same | closed
  · exact same
  · rw [closed] at authenticated
    simp [Context.close, Context.isAuthenticated] at authenticated

theorem Keeps.settings {session : Session} {context : Context} (keeps : session.Keeps context) :
    session.context.settings = context.settings := by
  rcases keeps with same | closed
  · rw [same]
  · rw [closed]
    rfl

/-- A session that waits for the terminal if it did before, or is over. -/
def Rests (session : Session) (context : Context) : Prop :=
  session.Keeps context ∧ session.pending? = none

end Session

namespace Turn

variable {setup : Setup} {caller : Nat}

theorem write_rests (turn : Turn) (reading : turn.session.isReading = true)
    (bytes : List UInt8) : (turn.write bytes).session.Rests turn.session.context := by
  unfold write
  cases turn.session.brokenLink with
  | none => exact ⟨.inl rfl, Session.pending?_of_isReading reading⟩
  | some text => exact ⟨.inr rfl, rfl⟩

theorem askAgain_rests (turn : Turn) (reading : turn.session.isReading = true) :
    turn.askAgain.session.Rests turn.session.context :=
  write_rests turn reading _

theorem rejectMalformed_rests (turn : Turn) (reading : turn.session.isReading = true)
    (fault : FrameError) : (turn.rejectMalformed fault).session.Rests turn.session.context :=
  askAgain_rests (turn.count _) reading

theorem repeatAnswer_rests (turn : Turn) (reading : turn.session.isReading = true) :
    turn.repeatAnswer.session.Rests turn.session.context := by
  unfold repeatAnswer
  split
  · exact write_rests turn reading _
  · exact write_rests turn reading _

theorem answer_rests (turn : Turn) (message : Message) (outcome : Outcome) :
    (turn.answer setup message outcome).session.Rests turn.session.context := by
  cases link : turn.session.brokenLink with
  | none =>
    rw [answer_linked link]
    split
    · exact ⟨.inr rfl, rfl⟩
    · exact ⟨.inl rfl, rfl⟩
  | some text =>
    rw [answer_severed link]
    exact ⟨.inr rfl, rfl⟩

theorem proceed_shared (turn : Turn) (message : Message) (deadline : Nat) (stretch : Stretch) :
    (turn.proceed setup message deadline stretch).shared = stretch.shared := by
  unfold proceed
  cases stage : stretch.stage <;> simp

theorem proceed_calls (turn : Turn) (message : Message) (deadline : Nat) (stretch : Stretch) :
    (turn.proceed setup message deadline stretch).calls =
      turn.calls ++ stretch.effects.filter Effect.isCall := by
  unfold proceed
  cases stage : stretch.stage with
  | waiting wait => exact List.filter_append ..
  | finished result =>
    dsimp only
    rw [answer_calls]
    exact List.filter_append ..

theorem proceed_keeps (turn : Turn) (message : Message) (deadline : Nat) (stretch : Stretch) :
    (turn.proceed setup message deadline stretch).session.Keeps stretch.context := by
  unfold proceed
  cases stage : stretch.stage with
  | waiting wait => exact .inl rfl
  | finished result => exact (answer_rests _ message _).1

theorem proceed_of_waiting {stretch : Stretch} {wait : Wait}
    (waits : stretch.stage = .waiting wait) (turn : Turn) (message : Message) (deadline : Nat) :
    turn.proceed setup message deadline stretch =
      { shared := stretch.shared
        session := { turn.session with
          context := stretch.context
          activity := .handling message wait deadline }
        effects := turn.effects ++ stretch.effects } := by
  simp [proceed, waits]

theorem proceed_of_finished {stretch : Stretch} {result : Except Failure Json}
    (done : stretch.stage = .finished result) (turn : Turn) (message : Message) (deadline : Nat) :
    turn.proceed setup message deadline stretch =
      Turn.answer setup
        { shared := stretch.shared
          session := { turn.session with context := stretch.context }
          effects := turn.effects ++ stretch.effects }
        message (Dispatch.outcome message result) := by
  simp [proceed, done]

theorem proceed_waits (turn : Turn) (message : Message) (deadline : Nat) (stretch : Stretch)
    {pending : Message} {wait : Wait} {limit : Nat}
    (busy : (turn.proceed setup message deadline stretch).session.activity =
      .handling pending wait limit) :
    pending = message ∧ stretch.stage = .waiting wait ∧
      (turn.proceed setup message deadline stretch).session.context = stretch.context := by
  cases stage : stretch.stage with
  | waiting other =>
    rw [proceed_of_waiting stage] at busy ⊢
    cases busy
    exact ⟨rfl, rfl, rfl⟩
  | finished result =>
    rw [proceed_of_finished stage] at busy
    have idle := Session.pending?_of_handling busy
    rw [(answer_rests _ _ _).2] at idle
    cases idle

end Turn

namespace Deed

/-- The context that a move goes by in the end. -/
def contextFrom (deed : Deed) (context : Context) : Context :=
  (deed.stretch?.map Stretch.context).getD context

/-- What is shared after a move. -/
def sharedFrom (caller : Nat) (shared : Shared) : Deed → Shared
  | dispatched _ _ stretch | resumed _ _ stretch => stretch.shared
  | late _ => { shared with logins := shared.logins.leave caller }
  | _ => shared

/-- The calls that a move makes. -/
def calls (deed : Deed) : List Effect :=
  (deed.stretch?.map fun stretch => stretch.effects.filter Effect.isCall).getD []

end Deed

namespace Turn

variable {setup : Setup} {caller : Nat} {turn after : Turn} {deed : Deed}

theorem conclude_idle (turn : Turn) (ending : Ending) :
    (turn.conclude ending).session.pending? = none := by
  unfold conclude
  cases ending.tally? <;> rfl

/-! What a move does, whatever it is. -/

theorem Move.shared_eq (move : Move setup caller turn deed after) :
    after.shared = deed.sharedFrom caller turn.shared := by
  cases move with
  | malformed => exact askAgain_shared _
  | asked => exact repeatAnswer_shared _
  | repeated => exact repeatAnswer_shared _
  | misplaced => exact askAgain_shared _
  | refused => exact answer_shared _ _ _
  | dispatched => exact proceed_shared _ _ _ _
  | resumed => exact proceed_shared _ _ _ _
  | late => exact answer_shared _ _ _
  | overlong => exact askAgain_shared _
  | ended => exact conclude_shared _ _
  | stored => rfl
  | waited => rfl
  | severed => rfl

theorem Move.calls_eq (move : Move setup caller turn deed after) :
    after.calls = turn.calls ++ deed.calls := by
  cases move with
  | dispatched => exact proceed_calls _ _ _ _
  | resumed => exact proceed_calls _ _ _ _
  | malformed => simp [Deed.calls, Deed.stretch?, rejectMalformed, askAgain]
  | asked => simp [Deed.calls, Deed.stretch?]
  | repeated => simp [Deed.calls, Deed.stretch?]
  | misplaced => simp [Deed.calls, Deed.stretch?, askAgain]
  | refused => simp [Deed.calls, Deed.stretch?]
  | late => exact (answer_calls _ _ _).trans (List.append_nil _).symm
  | overlong => exact (write_calls _ _).trans ((count_calls _ _).trans (List.append_nil _).symm)
  | ended => simp [Deed.calls, Deed.stretch?]
  | stored => exact (List.append_nil _).symm
  | waited => exact (List.append_nil _).symm
  | severed => exact (List.append_nil _).symm

/-- Whoever is called in a move is called by a handler. -/
theorem Move.called (move : Move setup caller turn deed after) (fresh : turn.effects = [])
    {effect : Effect} (call : effect.isCall = true) (done : effect ∈ after.effects) :
    ∃ stretch, deed.stretch? = some stretch ∧ effect ∈ stretch.effects := by
  have inCalls : effect ∈ after.calls := List.mem_filter.mpr ⟨done, call⟩
  rw [move.calls_eq] at inCalls
  simp only [calls, fresh, List.filter_nil, List.nil_append, Deed.calls] at inCalls
  cases handled : deed.stretch? with
  | none => simp [handled] at inCalls
  | some stretch =>
    simp only [handled, Option.map_some, Option.getD_some] at inCalls
    exact ⟨stretch, rfl, (List.mem_filter.mp inCalls).1⟩

theorem Move.keeps (move : Move setup caller turn deed after) :
    after.session.Keeps (deed.contextFrom turn.session.context) := by
  cases move with
  | malformed reading => exact (rejectMalformed_rests turn reading _).1
  | asked reading => exact (repeatAnswer_rests turn reading).1
  | repeated reading => exact (repeatAnswer_rests (turn.count _) reading).1
  | misplaced reading => exact (askAgain_rests (turn.count _) reading).1
  | refused => exact (answer_rests turn _ _).1
  | dispatched => exact proceed_keeps turn _ _ _
  | resumed => exact proceed_keeps turn _ _ _
  | late => exact (answer_rests _ _ _).1
  | overlong reading => exact (rejectMalformed_rests (turn.withBuffer []) reading _).1
  | ended => exact .inr (by unfold conclude; cases Ending.tally? _ <;> rfl)
  | stored => exact .inl rfl
  | waited => exact .inl rfl
  | severed => exact .inl rfl

/-- A session in the middle of a request has just got there, or nothing has happened to it. -/
theorem Move.waits (move : Move setup caller turn deed after) {message : Message} {wait : Wait}
    {deadline : Nat} (busy : after.session.activity = .handling message wait deadline) :
    (∃ stretch, deed.stretch? = some stretch ∧ deed.request? = some message ∧
        stretch.stage = .waiting wait ∧ after.session.context = stretch.context) ∨
      (deed = .quiet ∧ turn.session.activity = .handling message wait deadline ∧
        after.session.context = turn.session.context) := by
  have busy' := Session.pending?_of_handling busy
  -- A move that answers or writes leaves a session that is not in the middle of anything.
  have idle {context : Context} (rests : after.session.Rests context) : False := by
    rw [rests.2] at busy'
    cases busy'
  cases move with
  | malformed reading => exact (idle (rejectMalformed_rests turn reading _)).elim
  | asked reading => exact (idle (repeatAnswer_rests turn reading)).elim
  | repeated reading => exact (idle (repeatAnswer_rests (turn.count _) reading)).elim
  | misplaced reading => exact (idle (askAgain_rests (turn.count _) reading)).elim
  | refused => exact (idle (answer_rests turn _ _)).elim
  | dispatched =>
    obtain ⟨rfl, waits, same⟩ := proceed_waits turn _ _ _ busy
    exact .inl ⟨_, rfl, rfl, waits, same⟩
  | resumed =>
    obtain ⟨rfl, waits, same⟩ := proceed_waits turn _ _ _ busy
    exact .inl ⟨_, rfl, rfl, waits, same⟩
  | late => exact (idle (answer_rests _ _ _)).elim
  | overlong reading => exact (idle (rejectMalformed_rests (turn.withBuffer []) reading _)).elim
  | ended =>
    rw [conclude_idle] at busy'
    cases busy'
  | stored => exact .inr ⟨rfl, busy, rfl⟩
  | waited => simp at busy
  | severed => exact .inr ⟨rfl, busy, rfl⟩

end Turn

namespace Session

variable {setup : Setup} {caller : Nat} {origin session : Session} {past : List Episode}

/-! Every turn is part of a course. -/

theorem Course.chain {shared : Shared} {later : List Episode} {turn : Turn}
    (course : Course setup caller origin past session)
    (chain : Turn.Chain setup caller (session.turn shared) later turn) :
    Course setup caller origin (later ++ past) turn.session := by
  -- The effects of the turn so far are no matter to a session, so every move begins afresh.
  induction chain with
  | nil => exact course
  | more _ move _ ih => exact .more ih move

/-- What a session does when it is told signals one after the other, each at a moment with its own
shared things; none when it is told something that it does not wait for. -/
def play? (setup : Setup) (caller : Nat) (session : Session) :
    List (Shared × Signal) → Option (List Effect × Session)
  | [] => some ([], session)
  | (shared, signal) :: rest =>
    (session.step? setup caller shared signal).bind fun turn =>
      (turn.session.play? setup caller rest).map fun (effects, last) =>
        (turn.effects ++ effects, last)

theorem Course.plays (course : Course setup caller origin past session)
    {signals : List (Shared × Signal)} {effects : List Effect} {last : Session}
    (plays : session.play? setup caller signals = some (effects, last)) :
    ∃ later, Course setup caller origin (later ++ past) last ∧
      effects = later.reverse.flatMap (·.after.effects) ∧
      ∀ episode ∈ later, episode.Framed setup := by
  induction signals generalizing session past effects with
  | nil =>
    simp only [Session.play?, Option.some.injEq, Prod.mk.injEq] at plays
    obtain ⟨rfl, rfl⟩ := plays
    exact ⟨[], course, rfl, by simp⟩
  | cons told rest ih =>
    obtain ⟨shared, signal⟩ := told
    obtain ⟨turn, steps, onward⟩ := Option.bind_eq_some_iff.mp plays
    obtain ⟨⟨others, final⟩, playsOn, same⟩ := Option.map_eq_some_iff.mp onward
    cases same
    obtain ⟨middle, first, chain⟩ := step?_chain steps
    generalize middle ++ [first] = turns at chain
    obtain ⟨later, whole, rfl, framed⟩ := ih (course.chain chain) playsOn
    refine ⟨later ++ turns, by rwa [List.append_assoc], ?_,
      List.forall_mem_append.mpr ⟨framed, chain.framed⟩⟩
    rw [chain.effects, List.reverse_append, List.flatMap_append]
    rfl

theorem Course.play? (course : Course setup caller origin past session)
    {signals : List (Shared × Signal)} {effects : List Effect} {last : Session}
    (plays : session.play? setup caller signals = some (effects, last)) :
    ∃ later, Course setup caller origin (later ++ past) last ∧
      effects = later.reverse.flatMap (·.after.effects) := by
  obtain ⟨later, whole, same, -⟩ := course.plays plays
  exact ⟨later, whole, same⟩

/-- A course in which every frame has been cut off some bytes by the session's delimiter. -/
structure Run (setup : Setup) (caller : Nat) (origin : Session) (past : List Episode)
    (session : Session) : Prop where
  course : Course setup caller origin past session
  framed : ∀ episode ∈ past, episode.Framed setup

/-- Whatever signals a session is told, it makes a run. -/
theorem Run.of_play? {signals : List (Shared × Signal)} {effects : List Effect} {last : Session}
    (plays : origin.play? setup caller signals = some (effects, last)) :
    ∃ past, Run setup caller origin past last ∧
      effects = past.reverse.flatMap (·.after.effects) := by
  obtain ⟨past, course, same, framed⟩ := Course.nil.plays plays
  rw [List.append_nil] at course
  exact ⟨past, ⟨course, framed⟩, same⟩

end Session

namespace Effect

def request? : Effect → Option PlatformRequest
  | execute request => some request
  | _ => none

theorem request?_eq_some {effect : Effect} {request : PlatformRequest} :
    effect.request? = some request ↔ effect = .execute request := by
  cases effect <;> simp [request?]

/-- The password of a login. -/
def password? : Effect → Option String
  | login _ password => some password
  | _ => none

end Effect

/-- A result whose value can be decided. -/
theorem ok_of_toOption {ε α : Type} {result : Except ε α} {value : α}
    (returned : result.toOption = some value) : result = .ok value := by
  cases result with
  | error fault => cases returned
  | ok other =>
    cases returned
    rfl

/-- A result whose fault can be decided. -/
theorem error_of_match {ε α : Type} {result : Except ε α} {fault : ε}
    (failed : (match result with | .error other => some other | .ok _ => none) = some fault) :
    result = .error fault := by
  cases result with
  | error other =>
    cases failed
    rfl
  | ok value => cases failed

/-! A desk of one library, where runs on fixed inputs take place. -/

namespace Desk

def library : TenantId := ⟨"main", by decide⟩

def setup : Setup := { resolvers := [.always .connect library] }

def terminal : Net.SocketAddress := { ip := .v4 0x0A010203#32, port := 40000 }

/-- A policy with the library's wire settings and what it supports. -/
def policy (errorDetection : Bool) (supported : List Command) : Policy :=
  { tenants := [(library, { acs := { supported }, session := { errorDetection } })] }

def token : Token := ⟨"k", 2000, 3000⟩

def account : Account := ⟨library, "u"⟩

def shared (policy : Policy) (logins : Logins) : Shared := { policy, logins, now := 1000 }

/-- A session there. -/
def session (policy : Policy) : Session :=
  (Session.start setup (shared policy (.empty 8)) "s" terminal 6443).session

/-- The logins while a caller waits for the only one. -/
def awaited (caller : Nat) : Logins where
  cache := .empty 8
  gates := [(account, 0)]
  made := 1
  shares := [{ caller, account, gate := 0, deadline := some 11250 }]

/-- The logins once the only one has succeeded. -/
def served : Logins := { cache := ((TokenCache.empty 8).insert account token).2 }

/-- A line as terminals without error detection send it. -/
def line (body : String) : List UInt8 := Frame.encode body .none Frame.carriageReturn

/-- A login, with a digit and a checksum or without both. -/
def login (user password : String) (digit : Option (Fin 10)) (checksum : Option UInt16) :
    Message where
  code := "93"
  command := some .login
  fixed := [⟨"uid_algorithm", "0"⟩, ⟨"pwd_algorithm", "0"⟩]
  tagged := [⟨"CN", user⟩, ⟨"CO", password⟩]
  sequence := digit
  checksum := checksum

end Desk

end SelfCheck
