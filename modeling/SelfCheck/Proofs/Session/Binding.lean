import SelfCheck.Proofs.Dispatch.Binding
import SelfCheck.Proofs.Session.Gate

/-! A session and its library: bound once and for all, whatever logins follow.

A login may bind the session and still come to nothing: it may be refused, or its time may run out.
It may be tried again, and the resolvers are asked again. None of this moves the session to another
library, and only a login that succeeds has a say in who is logged in.
-/

set_option autoImplicit false

namespace SelfCheck

namespace Turn

variable {setup : Setup} {caller : Nat} {turn after : Turn} {deed : Deed}

theorem Move.loyal (stock : setup.handlers = Handler.stock) (sound : turn.session.Sound)
    (move : Move setup caller turn deed after) {stretch : Stretch} {message : Message}
    (done : deed.stretch? = some stretch) (asked : deed.request? = some message) :
    stretch.Loyal message turn.session.context := by
  cases move with
  | dispatched =>
    cases done
    cases asked
    exact Dispatch.start_loyal stock
  | resumed busy resumes =>
    cases done
    cases asked
    exact Dispatch.resume?_loyal (sound.waiting _ _ _ busy) resumes
  | _ => cases done

/-- Whatever comes of a move, the session goes by the context of the handler. -/
theorem Move.contextFrom_stays (stock : setup.handlers = Handler.stock)
    (sound : turn.session.Sound) (move : Move setup caller turn deed after) :
    turn.session.context.Stays (deed.contextFrom turn.session.context) := by
  cases done : deed.stretch? with
  | none => simpa [Deed.contextFrom, done] using Context.Stays.refl _
  | some stretch =>
    obtain ⟨message, asked⟩ := move.request_of_stretch done
    simpa [Deed.contextFrom, done] using (move.loyal stock sound done asked).stays

theorem Move.stays (stock : setup.handlers = Handler.stock) (sound : turn.session.Sound)
    (move : Move setup caller turn deed after) :
    turn.session.context.Stays after.session.context := by
  have first := move.contextFrom_stays stock sound
  rcases move.keeps with same | closed
  · rw [same]
    exact first
  · rw [closed]
    exact first.trans (.of_eq rfl rfl)

/-- The library in whose name a move calls somebody is the session's from then on. -/
theorem Move.names (stock : setup.handlers = Handler.stock) (sound : turn.session.Sound)
    (move : Move setup caller turn deed after) (fresh : turn.effects = []) {effect : Effect}
    (done : effect ∈ after.effects) {tenant : TenantId} (named : effect.tenant? = some tenant) :
    after.session.context.tenant = some tenant := by
  have call : effect.isCall = true := by
    cases effect with
    | login | execute => rfl
    | _ => cases named
  obtain ⟨stretch, mine, made⟩ := move.called fresh call done
  obtain ⟨message, asked⟩ := move.request_of_stretch mine
  have bound := (move.loyal stock sound mine asked).calls effect made tenant named
  have keeps := move.keeps
  simp only [Deed.contextFrom, mine, Option.map_some, Option.getD_some] at keeps
  rcases keeps with same | closed
  · rw [same]
    exact bound
  · rw [closed]
    exact bound

/-! A session that is not over yet. -/

theorem write_alive (turn : Turn) (bytes : List UInt8)
    (alive : (turn.write bytes).session.ending? = none) :
    (turn.write bytes).session.context = turn.session.context := by
  unfold write at alive ⊢
  cases link : turn.session.brokenLink with
  | none => rfl
  | some text =>
    rw [link] at alive
    cases alive

theorem repeatAnswer_alive (turn : Turn) (alive : turn.repeatAnswer.session.ending? = none) :
    turn.repeatAnswer.session.context = turn.session.context := by
  unfold repeatAnswer at alive ⊢
  split at alive
  · exact write_alive turn _ alive
  · exact write_alive turn _ alive

theorem answer_alive (turn : Turn) (message : Message) (outcome : Outcome)
    (alive : (turn.answer setup message outcome).session.ending? = none) :
    (turn.answer setup message outcome).session.context = turn.session.context := by
  cases link : turn.session.brokenLink with
  | none =>
    rw [answer_linked link] at alive ⊢
    by_cases ends : endsSession turn.settings message outcome = true
    · rw [if_pos ends] at alive
      cases alive
    · rw [if_neg ends]
      rfl
  | some text =>
    rw [answer_severed link] at alive
    cases alive

theorem answer_failed (turn : Turn) (linked : turn.session.brokenLink = none) (message : Message)
    (command : Option Command) (failure : Failure) :
    (turn.answer setup message (.failure command failure)).session.context =
      turn.session.context := by
  rw [answer_linked linked, if_neg (by simp [endsSession, Outcome.isSuccess])]
  rfl

theorem proceed_alive (turn : Turn) (message : Message) (deadline : Nat) (stretch : Stretch)
    (alive : (turn.proceed setup message deadline stretch).session.ending? = none) :
    (turn.proceed setup message deadline stretch).session.context = stretch.context := by
  cases stage : stretch.stage with
  | waiting wait => rw [proceed_of_waiting stage]
  | finished result =>
    rw [proceed_of_finished stage] at alive ⊢
    exact answer_alive _ _ _ alive

/-- Unless the session ends it goes by the context of the handler, if there was one. -/
theorem Move.context_eq (move : Move setup caller turn deed after)
    (alive : after.session.ending? = none) :
    after.session.context = deed.contextFrom turn.session.context := by
  cases move with
  | malformed => exact write_alive _ _ alive
  | asked => exact repeatAnswer_alive _ alive
  | repeated => exact repeatAnswer_alive _ alive
  | misplaced => exact write_alive _ _ alive
  | refused => exact answer_alive _ _ _ alive
  | dispatched => exact proceed_alive _ _ _ _ alive
  | resumed => exact proceed_alive _ _ _ _ alive
  | late => exact answer_alive _ _ _ alive
  | overlong => exact write_alive _ _ alive
  | ended =>
    unfold conclude at alive
    cases tally : Ending.tally? _ <;> rw [tally] at alive <;> cases alive
  | stored => rfl
  | waited => rfl
  | severed => rfl

theorem Move.alive (move : Move setup caller turn deed after)
    (alive : after.session.ending? = none) : turn.session.ending? = none := by
  have reads (reading : turn.session.isReading = true) : turn.session.ending? = none :=
    Session.ending?_of_isReading reading
  cases move with
  | resumed busy => simp [Session.ending?, busy]
  | late busy => simp [Session.ending?, busy]
  | stored => exact alive
  | severed => exact alive
  | malformed reading => exact reads reading
  | asked reading => exact reads reading
  | repeated reading => exact reads reading
  | misplaced reading => exact reads reading
  | refused reading => exact reads reading
  | dispatched reading => exact reads reading
  | overlong reading => exact reads reading
  | ended reading => exact reads reading
  | waited reading => exact reads reading

/-- A move in which no login succeeds has no say in who is logged in. -/
theorem Move.outside (stock : setup.handlers = Handler.stock) (sound : turn.session.Sound)
    (move : Move setup caller turn deed after)
    (fails : ∀ message model, deed.outcome? ≠ some (message, .success .login model)) :
    after.session.context.credentials = turn.session.context.credentials ∧
      (after.session.ending? = none →
        after.session.context.standing = turn.session.context.standing) := by
  have before : (deed.contextFrom turn.session.context).standing =
        turn.session.context.standing ∧
      (deed.contextFrom turn.session.context).credentials =
        turn.session.context.credentials := by
    cases done : deed.stretch? with
    | none => simp [Deed.contextFrom, done]
    | some stretch =>
      obtain ⟨message, asked⟩ := move.request_of_stretch done
      simp only [Deed.contextFrom, done, Option.map_some, Option.getD_some]
      apply (move.loyal stock sound done asked).outside
      rintro ⟨login, model, succeeds⟩
      apply fails message model
      cases deed with
      | dispatched | resumed =>
        cases done
        cases asked
        simp [Deed.outcome?, Stretch.result?, succeeds, Dispatch.outcome, login]
      | _ => cases done
  constructor
  · rcases move.keeps with same | closed
    · rw [same]
      exact before.2
    · rw [closed]
      exact before.2
  · intro alive
    rw [move.context_eq alive]
    exact before.1

/-- A session bound at the connection makes the same moves whatever the resolvers are. -/
theorem Move.unasked (move : Move setup caller turn deed after)
    (bound : turn.session.context.tenant.isSome = true)
    (early : turn.session.context.resolvedAt ≠ some .login) (others : Resolvers) :
    Move { setup with resolvers := others } caller turn deed after := by
  cases move with
  | malformed reading read => exact .malformed reading read
  | asked reading read resend => exact .asked reading read resend
  | repeated reading read resend verdict => exact .repeated reading read resend verdict
  | misplaced reading read resend verdict => exact .misplaced reading read resend verdict
  | refused reading read resend verdict gate =>
    exact .refused reading read resend verdict gate
  | dispatched reading read resend verdict gate =>
    rw [← Dispatch.start_eq_of_early bound early others]
    exact .dispatched reading read resend verdict gate
  | resumed busy resumes => exact .resumed busy resumes
  | late busy expired => exact .late busy expired
  | overlong reading => exact .overlong reading
  | ended reading => exact .ended reading
  | stored buffer => exact .stored buffer
  | waited reading => exact .waited reading
  | severed text alive => exact .severed text alive

end Turn

namespace Session

variable {setup : Setup} {caller : Nat} {origin session : Session} {past : List Episode}

/-- A course can be cut anywhere. -/
theorem Course.cut {later earlier : List Episode}
    (course : Course setup caller origin (later ++ earlier) session) :
    ∃ middle, Course setup caller origin earlier middle ∧
      Course setup caller middle later session := by
  generalize whole : later ++ earlier = past at course
  induction course generalizing later with
  | nil =>
    obtain ⟨rfl, rfl⟩ := List.append_eq_nil_iff.mp whole
    exact ⟨origin, .nil, .nil⟩
  | @more past before shared deed turn course move ih =>
    cases later with
    | nil =>
      subst whole
      exact ⟨_, .more course move, .nil⟩
    | cons last later =>
      simp only [List.cons_append, List.cons.injEq] at whole
      obtain ⟨rfl, rest⟩ := whole
      obtain ⟨middle, first, second⟩ := ih rest
      exact ⟨middle, first, .more second move⟩

/-- A session is where its first episode begins. -/
theorem Course.first {later : List Episode} {episode : Episode}
    (course : Course setup caller origin (later ++ [episode]) session) :
    episode.before.session = origin := by
  obtain ⟨before, shared, first, same, -⟩ := course.split
  rw [same]
  cases first
  rfl

theorem Course.stays (stock : setup.handlers = Handler.stock) (sound : origin.Sound)
    (course : Course setup caller origin past session) :
    origin.context.Stays session.context := by
  induction course with
  | nil => exact .refl _
  | more course move ih => exact ih.trans (move.stays stock (course.sound stock sound))

theorem Course.outside (stock : setup.handlers = Handler.stock) (sound : origin.Sound)
    (course : Course setup caller origin past session)
    (fails : ∀ episode ∈ past, ¬episode.LogsIn) :
    session.context.credentials = origin.context.credentials ∧
      (session.ending? = none → session.context.standing = origin.context.standing) := by
  induction course with
  | nil => exact ⟨rfl, fun _ => rfl⟩
  | more course move ih =>
    obtain ⟨credentials, standing⟩ := ih fun episode member =>
      fails episode (List.mem_cons_of_mem _ member)
    obtain ⟨credentials', standing'⟩ := move.outside stock (course.sound stock sound)
      fun message model succeeds => fails _ List.mem_cons_self ⟨message, model, succeeds⟩
    exact ⟨credentials'.trans credentials, fun alive =>
      (standing' alive).trans (standing (move.alive alive))⟩

theorem Course.unasked (stock : setup.handlers = Handler.stock) (sound : origin.Sound)
    (placed : origin.context.Placed) (bound : origin.context.tenant.isSome = true)
    (early : origin.context.resolvedAt ≠ some .login) (others : Resolvers)
    (course : Course setup caller origin past session) :
    Course { setup with resolvers := others } caller origin past session := by
  induction course with
  | nil => exact .nil
  | @more past before shared deed turn course move ih =>
    have stays := course.stays stock sound
    refine .more ih (move.unasked ?_ ?_ others)
    · change before.context.tenant.isSome = true
      rw [stays.tenant bound]
      exact bound
    · change before.context.resolvedAt ≠ some .login
      rw [stays.phase placed bound]
      exact early

theorem start_placed (setup : Setup) (shared : Shared) (name : String) (peer : Net.SocketAddress)
    (port : Nat) : (start setup shared name peer port).session.context.Placed := by
  have bare : (Context.start name peer port setup.settings setup.station).Placed := rfl
  unfold start
  dsimp only
  split
  · split
    · next bound done =>
      have placed := (Context.bindAndAdopt_stays done).placed bare
      unfold Turn.withContext Context.awaitLogin
      dsimp only
      split
      · exact placed
      · exact placed
    · exact bare
  · split
    · exact bare
    · exact bare

end Session

/-- A login that the resolvers send to another library than the one the session has found at an
earlier login. -/
def Episode.Strays (setup : Setup) (episode : Episode) (stretch : Stretch) : Prop :=
  ∃ frame message tenant resolved, episode.deed = .dispatched frame message stretch ∧
    message.command = some .login ∧ episode.before.session.context.tenant = some tenant ∧
    episode.before.session.context.resolvedAt = some .login ∧
    setup.resolvers.resolve? .login
      (Dispatch.loginFacts episode.before.session.context message) = some resolved ∧
    resolved.tenant ≠ tenant

namespace Turn

variable {setup : Setup} {caller : Nat} {turn after : Turn} {deed : Deed}

/-- A login that strays fails at once, and nothing else comes of it. -/
theorem Move.strayed (stock : setup.handlers = Handler.stock)
    (move : Move setup caller turn deed after) {stretch : Stretch}
    (strays : Episode.Strays setup ⟨turn, deed, after⟩ stretch) :
    stretch.context = turn.session.context ∧ stretch.effects = [] ∧
      after.calls = turn.calls ∧
      (turn.session.brokenLink = none → after.session.context = turn.session.context) := by
  obtain ⟨frame, message, tenant, resolved, handed, login, bound, late, resolves, elsewhere⟩ :=
    strays
  obtain rfl : deed = .dispatched frame message stretch := handed
  cases move with
  | dispatched =>
    obtain ⟨cause, comesTo⟩ : ∃ cause,
        Dispatch.login setup caller message turn.shared turn.session.context =
          Dispatch.rest turn.shared turn.session.context (.error (Dispatch.refusal cause)) :=
      Dispatch.login_strayed bound late resolves elsewhere
    have begins : Dispatch.start setup caller message turn.shared turn.session.context =
        Dispatch.rest turn.shared turn.session.context (.error (Dispatch.refusal cause)) := by
      rw [← comesTo]
      simp [Dispatch.start, login, stock, Handler.lookup_stock, Handler.stock?]
    rw [begins]
    refine ⟨rfl, rfl, ?_, ?_⟩
    · rw [proceed_calls]
      exact List.append_nil _
    · intro linked
      rw [proceed_of_finished rfl, Dispatch.outcome, answer_failed]
      · rfl
      · exact linked

end Turn

namespace Session

variable {setup : Setup} {caller : Nat} {session : Session} {past : List Episode}

/-- The binding of a session with the gateway's own handlers, whatever logins it sees and whatever
happens to the policy meanwhile. -/
theorem bound_once_for_all (stock : setup.handlers = Handler.stock) {shared : Shared}
    {name : String} {peer : Net.SocketAddress} {port : Nat}
    (course : Course setup caller (start setup shared name peer port).session past session) :
    -- Library and phase stay.
    (∀ episode ∈ past, ∀ tenant, episode.before.session.context.tenant = some tenant →
      session.context.tenant = some tenant ∧
        session.context.resolvedAt = episode.before.session.context.resolvedAt) ∧
    -- Bound at the connection, the session takes the same course whatever the resolvers are.
    ((start setup shared name peer port).session.context.tenant.isSome = true →
      ∀ others : Resolvers, Course { setup with resolvers := others } caller
        (start setup shared name peer port).session past session) ∧
    -- Calls name the session's library.
    (∀ episode ∈ past, ∀ effect ∈ episode.after.effects, ∀ tenant,
      effect.tenant? = some tenant → session.context.tenant = some tenant) ∧
    -- A login for another library changes nothing, and nobody is called.
    (∀ episode ∈ past, ∀ stretch, episode.Strays setup stretch →
      stretch.context = episode.before.session.context ∧ episode.after.calls = [] ∧
        (episode.before.session.brokenLink = none →
          episode.after.session.context = episode.before.session.context)) ∧
    -- As long as no login succeeds nobody is logged in or out.
    (∀ later first earlier, past = later ++ first :: earlier →
      (∀ episode ∈ later ++ [first], ¬episode.LogsIn) →
      session.context.credentials = first.before.session.context.credentials ∧
        (session.ending? = none →
          session.context.standing = first.before.session.context.standing)) := by
  have sound := start_sound setup shared name peer port
  have placed := start_placed setup shared name peer port
  refine ⟨?_, ?_, ?_, ?_, ?_⟩
  · intro episode member tenant bound
    obtain ⟨later, earlier, rfl⟩ := List.append_of_mem member
    rw [List.append_cons] at course
    obtain ⟨middle, before, onward⟩ := course.cut
    rw [onward.first] at bound ⊢
    have stays := onward.stays stock (before.sound stock sound)
    have known : middle.context.tenant.isSome = true := by simp [bound]
    exact ⟨(stays.tenant known).trans bound,
      stays.phase ((before.stays stock sound).placed placed) known⟩
  · intro bound others
    obtain ⟨-, -, -, -, -, early⟩ := start_session setup shared name peer port
    exact course.unasked stock sound placed bound early others
  · intro episode member effect done tenant named
    obtain ⟨later, earlier, rfl⟩ := List.append_of_mem member
    obtain ⟨after, upTo, onward⟩ := course.cut
    have soundAfter := upTo.sound stock sound
    cases upTo with
    | more before move =>
      have bound := move.names stock (before.sound stock sound) rfl done named
      rw [(onward.stays stock soundAfter).tenant (by simp [bound])]
      exact bound
  · intro episode member stretch strays
    obtain ⟨before, shared, earlier, -, same, move⟩ := course.split_of_mem member
    obtain ⟨context, -, calls, kept⟩ := move.strayed stock strays
    refine ⟨context, ?_, kept⟩
    rw [calls, same]
    rfl
  · rintro later first earlier rfl fails
    rw [List.append_cons] at course
    obtain ⟨middle, before, onward⟩ := course.cut
    rw [onward.first]
    exact onward.outside stock (before.sound stock sound) fails

def branch : TenantId := ⟨"branch", by decide⟩

/-- A gateway where the location code of a login says which library it is for. -/
def located : Setup where
  resolvers := [.locationCode [("m", Desk.library), ("b", branch)]]
  settings := { errorDetection := false }

/-- A login at one library that the platform does not accept, and one at another. -/
def otherBranch : List (Shared × Signal) :=
  let shared := Desk.shared {}
  [(shared (.empty 8), .received (Desk.line "9300CNu|COp|CPm|")),
    (shared (Desk.awaited 0), .reply (.login (.error .unauthorized))),
    (shared (.empty 8), .received (Desk.line "9300CNu|COp|CPb|"))]

theorem bound_once_for_all_located :
    ∃ past session,
      Course located 0
          (start located (Desk.shared {} (.empty 8)) "s" Desk.terminal 6443).session past session ∧
        (past.reverse.flatMap (·.after.effects)).filterMap Effect.tenant? = [Desk.library] ∧
        session.context.tenant = some Desk.library := by
  have works : ((start located (Desk.shared {} (.empty 8)) "s" Desk.terminal 6443).session.play?
      located 0 otherBranch).any
        (fun played => played.1.filterMap Effect.tenant? = [Desk.library]) = true := by
    decide +kernel
  obtain ⟨⟨effects, session⟩, plays, called⟩ := (Option.any_eq_true _ _).mp works
  rw [decide_eq_true_eq] at called
  obtain ⟨past, course, rfl⟩ := Course.nil.play? plays
  rw [List.append_nil] at course
  refine ⟨past, session, course, called, ?_⟩
  have some : Desk.library ∈
      (past.reverse.flatMap (·.after.effects)).filterMap Effect.tenant? := by simp [called]
  obtain ⟨effect, done, named⟩ := List.mem_filterMap.mp some
  obtain ⟨episode, member, done⟩ := List.mem_flatMap.mp done
  obtain ⟨-, -, names, -, -⟩ := bound_once_for_all rfl course
  exact names episode (List.mem_reverse.mp member) effect done Desk.library named

end Session

end SelfCheck
