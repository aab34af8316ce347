import SelfCheck.Proofs.Dispatch
import SelfCheck.Proofs.Session.Course

/-! Who gets past the gate.

A request that the policy can switch off reaches its handler only when somebody is logged in, the
session is bound to a library whose profile supports the request, and the station allows it.
-/

set_option autoImplicit false

namespace SelfCheck

/-- Whether a request may be handled in a context: the gate, said at once. -/
structure Context.Allows (context : Context) (policy : Policy) (command : Command) : Prop where
  authenticated : context.isAuthenticated = true
  supported : ∃ tenant, context.tenant = some tenant ∧
    (policy.profile tenant).acs.supports command = true
  checkin : command = .checkin → context.station.checkinOk = true
  checkout : command = .checkout → context.station.checkoutOk = true

theorem Turn.refusal?_eq_none_iff {policy : Policy} {context : Context} {command : Command}
    (business : command.isSessionControl = false) :
    refusal? policy context command = none ↔ context.Allows policy command := by
  unfold refusal?
  rw [business]
  constructor
  · intro passes
    cases standing : context.isAuthenticated with
    | false => simp [standing] at passes
    | true =>
      cases bound : context.tenant with
      | none => simp [standing, bound] at passes
      | some tenant =>
        simp only [standing, bound, Bool.not_true, Bool.false_eq_true, ↓reduceIte,
          ite_eq_left_iff, reduceCtorEq, imp_false, Decidable.not_not, Bool.and_eq_true] at passes
        obtain ⟨supported, station⟩ := passes
        refine ⟨standing, ⟨tenant, bound, supported⟩, ?_, ?_⟩
        · rintro rfl
          exact station
        · rintro rfl
          exact station
  · rintro ⟨authenticated, ⟨tenant, bound, supported⟩, checkin, checkout⟩
    simp only [authenticated, bound, supported]
    -- Only two commands depend on the station.
    cases command <;> simp_all

theorem Turn.authenticated_behind_gate {policy : Policy} {context : Context} {message : Message}
    (gate : message.command.bind (refusal? policy context) = none)
    (business : message.isBusiness = true) : context.isAuthenticated = true := by
  obtain ⟨command, named, control⟩ := Message.command_of_business business
  rw [named, Option.bind_some, refusal?_eq_none_iff control] at gate
  exact gate.authenticated

namespace Session

/-! Sessions of the gateway's own handlers. -/

structure Sound (session : Session) : Prop where
  grounded : session.context.Grounded
  waiting : ∀ message wait deadline, session.activity = .handling message wait deadline →
    session.context.Awaits message wait

theorem Keeps.grounded {session : Session} {context : Context} (keeps : session.Keeps context)
    (grounded : context.Grounded) : session.context.Grounded := by
  intro authenticated
  have same := keeps.eq_of_authenticated authenticated
  rw [same] at authenticated ⊢
  exact grounded authenticated

end Session

namespace Turn

variable {setup : Setup} {caller : Nat} {turn after : Turn} {deed : Deed}

/-- What a handler does in a move is sound if the session was. -/
theorem Move.stretch_sound (stock : setup.handlers = Handler.stock)
    (sound : turn.session.Sound) (move : Move setup caller turn deed after) {stretch : Stretch}
    {message : Message} (done : deed.stretch? = some stretch)
    (asked : deed.request? = some message) : stretch.Sound message turn.session.context := by
  cases move with
  | dispatched _ _ _ _ gate =>
    cases done
    cases asked
    exact Dispatch.start_sound stock sound.grounded (authenticated_behind_gate gate)
  | resumed busy resumes =>
    cases done
    cases asked
    exact Dispatch.resume?_sound sound.grounded (sound.waiting _ _ _ busy) resumes
  | _ => cases done

theorem Move.request_of_stretch (move : Move setup caller turn deed after) {stretch : Stretch}
    (done : deed.stretch? = some stretch) : ∃ message, deed.request? = some message := by
  cases move <;> first | exact ⟨_, rfl⟩ | cases done

theorem Move.sound (stock : setup.handlers = Handler.stock) (sound : turn.session.Sound)
    (move : Move setup caller turn deed after) : after.session.Sound where
  grounded := by
    apply move.keeps.grounded
    cases done : deed.stretch? with
    | none => simpa [Deed.contextFrom, done] using sound.grounded
    | some stretch =>
      obtain ⟨message, asked⟩ := move.request_of_stretch done
      simpa [Deed.contextFrom, done] using (move.stretch_sound stock sound done asked).grounded
  waiting := by
    intro message wait deadline busy
    rcases move.waits busy with ⟨stretch, done, asked, waits, same⟩ | ⟨-, before, same⟩
    · rw [same]
      exact (move.stretch_sound stock sound done asked).waiting wait waits
    · rw [same]
      exact sound.waiting _ _ _ before

end Turn

namespace Session

/-- How a session is after its first turn. -/
theorem start_session (setup : Setup) (shared : Shared) (name : String) (peer : Net.SocketAddress)
    (port : Nat) :
    let session := (start setup shared name peer port).session
    session.context.isAuthenticated = false ∧ session.pending? = none ∧
      session.sequence = {} ∧ session.lastAnswer = none ∧ session.brokenLink = none ∧
      session.context.resolvedAt ≠ some .login := by
  have unresolved : (none : Option Phase) ≠ some .login := by simp
  unfold start
  dsimp only
  split
  · split
    · next bound done =>
      obtain ⟨-, standing, -, resolvedAt, -⟩ := Context.bindAndAdopt_eq_ok done
      refine ⟨?_, rfl, rfl, rfl, rfl, ?_⟩
      · simp [Turn.withContext, Context.awaitLogin, Context.isAuthenticated, standing,
          Context.start]
      · simp [Turn.withContext, Context.awaitLogin, standing, resolvedAt, Context.start]
    · exact ⟨rfl, rfl, rfl, rfl, rfl, unresolved⟩
  · split
    · exact ⟨rfl, rfl, rfl, rfl, rfl, unresolved⟩
    · exact ⟨rfl, rfl, rfl, rfl, rfl, unresolved⟩

theorem start_sound (setup : Setup) (shared : Shared) (name : String) (peer : Net.SocketAddress)
    (port : Nat) : (start setup shared name peer port).session.Sound := by
  obtain ⟨outside, idle, -⟩ := start_session setup shared name peer port
  constructor
  · intro authenticated
    rw [outside] at authenticated
    cases authenticated
  · intro message wait deadline busy
    rw [pending?_of_handling busy] at idle
    cases idle

variable {setup : Setup} {caller : Nat} {origin session : Session} {past : List Episode}

theorem Course.sound (stock : setup.handlers = Handler.stock) (sound : origin.Sound)
    (course : Course setup caller origin past session) : session.Sound := by
  induction course with
  | nil => exact sound
  | more _ move ih => exact move.sound stock ih

/-- An episode in a course is a move from a session that the course came by. -/
theorem Course.split {later earlier : List Episode} {episode : Episode}
    (course : Course setup caller origin (later ++ episode :: earlier) session) :
    ∃ before shared, Course setup caller origin earlier before ∧
      episode.before = before.turn shared ∧
      Turn.Move setup caller episode.before episode.deed episode.after := by
  generalize whole : later ++ episode :: earlier = past at course
  induction course generalizing later with
  | nil => simp at whole
  | more course move ih =>
    cases later with
    | nil =>
      simp only [List.nil_append, List.cons.injEq] at whole
      obtain ⟨rfl, rfl⟩ := whole
      exact ⟨_, _, course, rfl, move⟩
    | cons last later =>
      simp only [List.cons_append, List.cons.injEq] at whole
      exact ih whole.2

theorem Course.split_of_mem (course : Course setup caller origin past session) {episode : Episode}
    (member : episode ∈ past) :
    ∃ before shared earlier, Course setup caller origin earlier before ∧
      episode.before = before.turn shared ∧
      Turn.Move setup caller episode.before episode.deed episode.after := by
  obtain ⟨later, earlier, rfl⟩ := List.append_of_mem member
  obtain ⟨before, shared, first, same, move⟩ := course.split
  exact ⟨before, shared, earlier, first, same, move⟩

/-- The request that a session handles was handed to its handler at some moment; since then the
session has not taken up anything else, and for a request that the policy can switch off the
context is still the same. -/
theorem Course.handed (stock : setup.handlers = Handler.stock) (sound : origin.Sound)
    (idle : origin.pending? = none) (course : Course setup caller origin past session)
    {message : Message} {wait : Wait} {deadline : Nat}
    (busy : session.activity = .handling message wait deadline) :
    ∃ later first earlier frame stretch, past = later ++ first :: earlier ∧
      first.deed = .dispatched frame message stretch ∧
      (∀ other ∈ later, other.deed.frame? = none) ∧
      (message.isBusiness = true → session.context = first.before.session.context) := by
  -- By induction on the course: the request has come in the last move, or has been pending before.
  induction course generalizing wait deadline with
  | nil =>
    rw [pending?_of_handling busy] at idle
    cases idle
  | @more past before shared deed turn course move ih =>
    have fair := course.sound stock sound
    rcases move.waits busy with ⟨stretch, done, asked, waits, same⟩ | ⟨rfl, pending, same⟩
    · have unchanged := (move.stretch_sound stock fair done asked).unchanged
      rw [same]
      cases move with
      | dispatched =>
        cases asked
        cases done
        exact ⟨[], _, past, _, _, rfl, rfl, by simp, unchanged⟩
      | resumed pending resumes =>
        cases asked
        cases done
        obtain ⟨later, first, earlier, frame, start, rfl, handed, alone, kept⟩ := ih pending
        refine ⟨_ :: later, first, earlier, frame, start, rfl, handed, ?_, ?_⟩
        · intro other member
          rcases List.mem_cons.mp member with rfl | member
          · rfl
          · exact alone other member
        · intro business
          exact (unchanged business).trans (kept business)
      | _ => cases done
    · obtain ⟨later, first, earlier, frame, start, rfl, handed, alone, kept⟩ := ih pending
      refine ⟨_ :: later, first, earlier, frame, start, rfl, handed, ?_, ?_⟩
      · intro other member
        rcases List.mem_cons.mp member with rfl | member
        · rfl
        · exact alone other member
      · intro business
        exact same.trans (kept business)

end Session

/-- A move in which a login succeeds. -/
def Episode.LogsIn (episode : Episode) : Prop :=
  ∃ message model, episode.deed.outcome? = some (message, .success .login model)

namespace Session

variable {setup : Setup} {caller : Nat} {origin session : Session} {past : List Episode}

/-- Nobody is logged in who has not logged in. -/
theorem Course.loggedIn (stock : setup.handlers = Handler.stock) (sound : origin.Sound)
    (outside : origin.context.isAuthenticated = false)
    (course : Course setup caller origin past session)
    (authenticated : session.context.isAuthenticated = true) :
    ∃ episode ∈ past, episode.LogsIn := by
  induction course with
  | nil =>
    rw [outside] at authenticated
    cases authenticated
  | @more past before shared deed turn course move ih =>
    have later (found : ∃ episode ∈ past, episode.LogsIn) :
        ∃ episode ∈ ⟨before.turn shared, deed, turn⟩ :: past, episode.LogsIn := by
      obtain ⟨episode, member, login⟩ := found
      exact ⟨episode, List.mem_cons_of_mem _ member, login⟩
    -- A session that closes is not logged in, so the context is that of the handler, if any.
    rw [move.keeps.eq_of_authenticated authenticated] at authenticated
    cases done : deed.stretch? with
    | none =>
      simp only [Deed.contextFrom, done, Option.map_none, Option.getD_none] at authenticated
      exact later (ih authenticated)
    | some stretch =>
      simp only [Deed.contextFrom, done, Option.map_some, Option.getD_some] at authenticated
      obtain ⟨message, asked⟩ := move.request_of_stretch done
      rcases (move.stretch_sound stock (course.sound stock sound) done asked).entered
        authenticated with already | ⟨login, model, succeeds⟩
      · exact later (ih already)
      · refine ⟨_, List.mem_cons_self, message, model, ?_⟩
        cases deed with
        | dispatched | resumed =>
          cases done
          cases asked
          simp [Deed.outcome?, Stretch.result?, succeeds, Dispatch.outcome, login]
        | _ => cases done

end Session

/-- A request that has a command fails at the gate, in the hands of its handler, or for lack of
time. -/
theorem Deed.failed {deed : Deed} {message : Message} {command : Command}
    (named : message.command = some command) {told : Option Command} {failure : Failure}
    (fails : deed.outcome? = some (message, .failure told failure)) :
    (∃ frame cause, deed = .refused frame message cause ∧ failure = { cause }) ∨
    (∃ stretch, deed.stretch? = some stretch ∧ deed.request? = some message ∧
      stretch.stage = .finished (.error failure)) ∨
    (deed = .late message ∧ failure = { cause := .deadline command }) := by
  cases deed with
  | refused frame request cause =>
    simp only [outcome?, Option.some.injEq, Prod.mk.injEq, Outcome.failure.injEq] at fails
    obtain ⟨rfl, -, rfl⟩ := fails
    exact .inl ⟨frame, cause, rfl, rfl⟩
  | dispatched | resumed =>
    obtain ⟨result, finishes, same⟩ := Option.map_eq_some_iff.mp fails
    obtain ⟨rfl, ends⟩ := Prod.mk.inj same
    cases result with
    | ok model => simp [Dispatch.outcome, named] at ends
    | error own =>
      simp only [Dispatch.outcome, Outcome.failure.injEq] at ends
      obtain ⟨-, rfl⟩ := ends
      exact .inr (.inl ⟨_, rfl, rfl, Stretch.result?_eq_some.mp finishes⟩)
  | late request =>
    simp only [outcome?, Option.some.injEq, Prod.mk.injEq] at fails
    obtain ⟨rfl, ends⟩ := fails
    simp only [Session.lateOutcome, named, Outcome.failure.injEq] at ends
    exact .inr (.inr ⟨rfl, ends.2.symm⟩)
  | _ => cases fails

namespace Turn

variable {setup : Setup} {caller : Nat} {turn after : Turn} {deed : Deed}

theorem refusal?_apt {policy : Policy} {context : Context} {command : Command} {cause : Cause}
    (grounded : context.Grounded) (refuses : refusal? policy context command = some cause) :
    Failure.Apt { cause } := by
  unfold refusal? at refuses
  split at refuses
  · cases refuses
  · split at refuses
    · cases refuses
      exact ⟨by simp, by simp⟩
    · next control standing =>
      rw [Bool.not_eq_true', Bool.not_eq_false] at standing
      obtain ⟨taken, -⟩ := grounded standing
      cases bound : context.tenant with
      | none =>
        rw [bound] at taken
        cases taken
      | some tenant =>
        simp only [bound, Option.ite_none_left_eq_some] at refuses
        obtain ⟨-, same⟩ := refuses
        cases same
        exact ⟨by simp, by simp⟩

/-- What is handed to a handler has passed the gate. -/
theorem Move.allows (move : Move setup caller turn deed after) {frame : List UInt8}
    {message : Message} {stretch : Stretch} {command : Command}
    (handed : deed = .dispatched frame message stretch)
    (named : message.command = some command) (business : command.isSessionControl = false) :
    turn.session.context.Allows turn.shared.policy command := by
  cases move with
  | dispatched _ _ _ _ gate =>
    cases handed
    rw [named, Option.bind_some, refusal?_eq_none_iff business] at gate
    exact gate
  | _ => cases handed

/-- A request that the policy can switch off does not fail for lack of a library or of somebody
logged in behind the gate. -/
theorem Move.apt (stock : setup.handlers = Handler.stock) (sound : turn.session.Sound)
    (move : Move setup caller turn deed after) {message : Message} {command : Option Command}
    {failure : Failure} (business : message.isBusiness = true)
    (fails : deed.outcome? = some (message, .failure command failure)) : failure.Apt := by
  obtain ⟨own, named, -⟩ := Message.command_of_business business
  rcases Deed.failed named fails with
    ⟨frame, cause, rfl, rfl⟩ | ⟨stretch, done, asked, ends⟩ | ⟨rfl, rfl⟩
  · cases move with
    | refused _ _ _ _ gate =>
      obtain ⟨_, -, refuses⟩ := Option.bind_eq_some_iff.mp gate
      exact refusal?_apt sound.grounded refuses
  · exact (move.stretch_sound stock sound done asked).apt business failure ends
  · exact ⟨by simp, by simp⟩

end Turn

/-- A move that hands a request to its handler and entitles the session to send it on: the gate has
seen who is logged in, the library and the policy of that moment. -/
structure Episode.Entitles (first : Episode) (request : PlatformRequest) : Prop where
  handed : ∃ frame message stretch,
    first.deed = .dispatched frame message stretch ∧ message.command = some request.command
  business : request.command.isSessionControl = false
  allows : first.before.session.context.Allows first.before.shared.policy request.command
  tenant : first.before.session.context.tenant = some request.tenant
  credentials : first.before.session.context.credentials.isSome = true

namespace Session

variable {setup : Setup} {caller : Nat} {origin session : Session} {past : List Episode}

/-- A business request in the hands of a handler has passed the gate, whatever the handlers are. -/
theorem Course.allows (course : Course setup caller origin past session) {episode : Episode}
    (member : episode ∈ past) {frame : List UInt8} {message : Message} {stretch : Stretch}
    {command : Command} (handed : episode.deed = .dispatched frame message stretch)
    (named : message.command = some command) (business : command.isSessionControl = false) :
    episode.before.session.context.Allows episode.before.shared.policy command := by
  obtain ⟨before, shared, earlier, -, -, move⟩ := course.split_of_mem member
  exact move.allows handed named business

/-- A session that sends a request to the platform waits for the platform from then on. -/
theorem Course.sends (stock : setup.handlers = Handler.stock) (sound : origin.Sound)
    {episode : Episode} {earlier : List Episode}
    (course : Course setup caller origin (episode :: earlier) session)
    {request : PlatformRequest} (sends : .execute request ∈ episode.after.effects) :
    ∃ message user deadline, message.command = some request.command ∧
      session.activity = .handling message (.platform ⟨request.tenant, user⟩) deadline := by
  cases course with
  | @more _ before shared deed turn course move =>
    obtain ⟨stretch, done, sent⟩ := move.called rfl rfl sends
    obtain ⟨message, asked⟩ := move.request_of_stretch done
    obtain ⟨named, user, waits⟩ :=
      (move.stretch_sound stock (course.sound stock sound) done asked).sent request sent
    refine ⟨message, user, ?_⟩
    cases move with
    | dispatched | resumed =>
      cases done
      cases asked
      rw [Turn.proceed_of_waiting waits]
      exact ⟨_, named, rfl⟩
    | _ => cases done

theorem Course.entitled (stock : setup.handlers = Handler.stock) (sound : origin.Sound)
    (idle : origin.pending? = none) {episode : Episode} {earlier : List Episode}
    (course : Course setup caller origin (episode :: earlier) session)
    {request : PlatformRequest} (sends : .execute request ∈ episode.after.effects) :
    ∃ later first before, episode :: earlier = later ++ first :: before ∧
      (∀ other ∈ later, other.deed.frame? = none) ∧ first.Entitles request := by
  obtain ⟨message, user, deadline, named, busy⟩ := course.sends stock sound sends
  obtain ⟨later, first, before, frame, stretch, whole, handed, alone, kept⟩ :=
    course.handed stock sound idle busy
  -- The session waits for the platform, so its context says for which account; and it has not
  -- changed since the request passed the gate.
  obtain ⟨business, -, tenant, password, credentials⟩ :=
    (course.sound stock sound).waiting _ _ _ busy
  have control : request.command.isSessionControl = false := by
    rw [Message.isBusiness_of_command named] at business
    simpa using business
  refine ⟨later, first, before, whole, alone, ⟨frame, message, stretch, handed, named⟩, control,
    ?_, ?_, ?_⟩
  · rw [whole] at course
    exact course.allows (by simp) handed named control
  · rw [← kept business]
    exact tenant
  · rw [← kept business, credentials]
    rfl

/-- The gate of a session, from its start on and for whatever comes in between: a business request
reaches its handler only past the gate. With the gateway's own handlers nobody is logged in without
a login of the same session, no request behind the gate fails for lack of a library or of
credentials, and whatever is sent to the platform has been entitled to by the gate. -/
theorem handled_behind_gate {shared : Shared} {name : String} {peer : Net.SocketAddress}
    {port : Nat}
    (course : Course setup caller (start setup shared name peer port).session past session) :
    (∀ episode ∈ past, ∀ frame message stretch command,
      episode.deed = .dispatched frame message stretch → message.command = some command →
      command.isSessionControl = false →
      episode.before.session.context.Allows episode.before.shared.policy command) ∧
    (setup.handlers = Handler.stock →
      (session.context.isAuthenticated = true →
        session.context.tenant.isSome = true ∧ session.context.credentials.isSome = true ∧
          ∃ episode ∈ past, episode.LogsIn) ∧
      (∀ episode ∈ past, ∀ message command failure,
        episode.deed.outcome? = some (message, .failure command failure) →
        message.isBusiness = true → failure.Apt) ∧
      (∀ later episode earlier request, past = later ++ episode :: earlier →
        .execute request ∈ episode.after.effects →
        ∃ between first before, episode :: earlier = between ++ first :: before ∧
          (∀ other ∈ between, other.deed.frame? = none) ∧ first.Entitles request)) := by
  obtain ⟨outside, idle, -⟩ := start_session setup shared name peer port
  have sound := start_sound setup shared name peer port
  refine ⟨fun episode member frame message stretch command => course.allows member, ?_⟩
  intro stock
  refine ⟨?_, ?_, ?_⟩
  · intro authenticated
    obtain ⟨tenant, credentials⟩ := (course.sound stock sound).grounded authenticated
    exact ⟨tenant, credentials, course.loggedIn stock sound outside authenticated⟩
  · intro episode member message command failure fails business
    obtain ⟨before, shared, earlier, first, same, move⟩ := course.split_of_mem member
    refine move.apt stock ?_ business fails
    rw [same]
    exact first.sound stock sound
  · rintro later episode earlier request rfl sends
    obtain ⟨before, shared, first, same, move⟩ := course.split
    rw [same] at move
    have upTo := Course.more first move
    rw [← same] at upTo
    exact upTo.entitled stock sound idle sends

/-- What happens at the desk when somebody logs in and checks an item out. -/
def checkout : List (Shared × Signal) :=
  let shared := Desk.shared (Desk.policy false [.checkout])
  [(shared (.empty 8), .received (Desk.line "9300CNu|COp|")),
    (shared (Desk.awaited 0), .reply (.login (.ok Desk.token))),
    (shared Desk.served, .received (Desk.line "11YN20240101    12000020240101    120000AAu|ABi|"))]

theorem handled_behind_gate_checkout :
    ∃ past session,
      Course Desk.setup 0 (Desk.session (Desk.policy false [.checkout])) past session ∧
        (∃ episode ∈ past, episode.LogsIn) ∧
        ∃ first ∈ past, ∃ request, first.Entitles request ∧ request.command = .checkout := by
  have works : ((Desk.session (Desk.policy false [.checkout])).play? Desk.setup 0 checkout).any
      (fun played => played.2.context.isAuthenticated &&
        (played.1.filterMap Effect.request?).any (·.command = .checkout)) = true := by
    decide +kernel
  obtain ⟨⟨effects, session⟩, plays, seen⟩ := (Option.any_eq_true _ _).mp works
  rw [Bool.and_eq_true, List.any_eq_true] at seen
  obtain ⟨authenticated, request, done, forwarded⟩ := seen
  obtain ⟨past, course, rfl⟩ := Course.nil.play? plays
  rw [List.append_nil] at course
  obtain ⟨-, behind⟩ := handled_behind_gate course
  obtain ⟨loggedIn, -, entitled⟩ := behind rfl
  refine ⟨_, session, course, (loggedIn authenticated).2.2, ?_⟩
  obtain ⟨effect, done, named⟩ := List.mem_filterMap.mp done
  rw [Effect.request?_eq_some.mp named] at done
  obtain ⟨episode, member, sends⟩ := List.mem_flatMap.mp done
  rw [List.mem_reverse] at member
  obtain ⟨after, before, rfl⟩ := List.append_of_mem member
  obtain ⟨between, first, earlier, whole, -, entitles⟩ :=
    entitled after episode before request rfl sends
  refine ⟨first, ?_, request, entitles, by simpa using forwarded⟩
  rw [whole]
  simp

end Session

end SelfCheck
