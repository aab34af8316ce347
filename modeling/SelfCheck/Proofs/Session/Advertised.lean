import SelfCheck.Proofs.Answer.Status
import SelfCheck.Proofs.Dispatch.Recognition
import SelfCheck.Proofs.Session.Unexecuted

/-! A session keeps what its status answers promise.

The gate and the status answer look at the same library, policy and station, each in its own way.
They agree on every command, and each command that a status answer advertises is taken on.
-/

set_option autoImplicit false

namespace SelfCheck

namespace Turn

variable {setup : Setup} {caller : Nat} {turn after : Turn} {deed : Deed}

/-- Whoever is logged in at a library gets past the gate with what a status answer advertises, and
with nothing else. -/
theorem refusal?_eq_none_iff_advertises (policy : Policy) {context : Context} {tenant : TenantId}
    (authenticated : context.isAuthenticated = true) (bound : context.tenant = some tenant)
    (now : Time.Moment) (command : Command) :
    refusal? policy context command = none ↔
      Answer.Advertises (Answer.status tenant (policy.profile tenant).acs context.station now)
        command := by
  rw [Answer.status_advertises_iff]
  cases control : command.isSessionControl with
  | true =>
    have switched (command' : Command) (business : command'.isSessionControl = false) :
        command ≠ command' := by
      rintro rfl
      rw [control] at business
      cases business
    have passes : refusal? policy context command = none := if_pos control
    rw [iff_true_left passes]
    exact ⟨.inl rfl, fun own => (switched .checkin rfl own).elim,
      fun own => (switched .checkout rfl own).elim⟩
  | false =>
    rw [refusal?_eq_none_iff control]
    constructor
    · rintro ⟨-, ⟨library, own, supported⟩, checkin, checkout⟩
      rw [bound] at own
      cases own
      exact ⟨.inr supported, checkin, checkout⟩
    · rintro ⟨flagged, checkin, checkout⟩
      have supported := flagged.resolve_left Bool.false_ne_true
      exact ⟨authenticated, ⟨tenant, bound, supported⟩, checkin, checkout⟩

/-! Requests that are taken on. -/

/-- The request in a frame is in the hands of its handler. -/
structure Serves (setup : Setup) (caller : Nat) (turn : Turn) (frame : List UInt8)
    (message : Message) : Prop where
  handler : ∃ command handler,
    message.command = some command ∧ setup.handlers.lookup command = some handler
  recognizes :
    (Dispatch.start setup caller message turn.shared turn.session.context).Recognizes
  handed : turn.handleFrame setup caller frame =
    turn.proceed setup message (turn.shared.clock + setup.requestTimeout)
      (Dispatch.start setup caller message turn.shared turn.session.context)

theorem serves_of_newRequest? (stock : setup.handlers = Handler.stock) {frame : List UInt8}
    {message : Message} {command : Command} (named : message.command = some command)
    (passes : refusal? turn.shared.policy turn.session.context command = none)
    (new : turn.session.newRequest? frame = some message) :
    turn.Serves setup caller frame message := by
  obtain ⟨other, executed⟩ := handleFrame_of_newRequest? setup caller new
  have asked : command ≠ .requestAcsResend := by
    rintro rfl
    exact other named
  obtain ⟨handler, found⟩ := Option.isSome_iff_exists.mp ((Handler.stock?_isSome command).mpr asked)
  refine ⟨⟨command, handler, named, ?_⟩, Dispatch.start_recognizes stock named asked, ?_⟩
  · rw [stock, Handler.lookup_stock, found]
  · rw [executed, execute, named, Option.bind_some, passes]

/-- The session itself sees to what asks for the last answer. -/
theorem handleFrame_of_asked {frame : List UInt8} {message : Message}
    (reads : Message.read frame (Session.fieldDelimiter turn.settings) = .ok message)
    (asks : message.command = some .requestAcsResend) :
    turn.handleFrame setup caller frame = turn.repeatAnswer := by
  unfold handleFrame
  rw [reads]
  exact if_pos asks

/-! Failures of requests. -/

theorem refusal?_recognized {policy : Policy} {context : Context} {command : Command}
    {cause : Cause} (refuses : refusal? policy context command = some cause) :
    Failure.Recognized { cause } := by
  unfold refusal? at refuses
  split at refuses
  · cases refuses
  · split at refuses
    · cases refuses
      simp [Failure.Recognized]
    · split at refuses
      · cases refuses
        simp [Failure.Recognized]
      · simp only [Option.ite_none_left_eq_some, Option.some.injEq] at refuses
        obtain ⟨-, rfl⟩ := refuses
        simp [Failure.Recognized]

/-- What a handler does with a request that has a command. -/
theorem Move.recognizes (stock : setup.handlers = Handler.stock) (sound : turn.session.Sound)
    (move : Move setup caller turn deed after) {stretch : Stretch} {message : Message}
    {command : Command} (named : message.command = some command)
    (done : deed.stretch? = some stretch) (asked : deed.request? = some message) :
    stretch.Recognizes := by
  cases move with
  | dispatched _ _ other =>
    cases done
    cases asked
    refine Dispatch.start_recognizes stock named ?_
    rintro rfl
    exact other named
  | resumed busy resumes =>
    cases done
    cases asked
    exact Dispatch.resume?_recognizes named (sound.waiting _ _ _ busy) resumes
  | _ => cases done

/-- No request that has a command fails for want of a handler. -/
theorem Move.recognized (stock : setup.handlers = Handler.stock) (sound : turn.session.Sound)
    (move : Move setup caller turn deed after) {message : Message} {command : Command}
    (named : message.command = some command) {told : Option Command} {failure : Failure}
    (fails : deed.outcome? = some (message, .failure told failure)) : failure.Recognized := by
  rcases Deed.failed named fails with
    ⟨frame, cause, rfl, rfl⟩ | ⟨stretch, done, asked, ends⟩ | ⟨rfl, rfl⟩
  · cases move with
    | refused _ _ _ _ gate =>
      obtain ⟨_, -, refuses⟩ := Option.bind_eq_some_iff.mp gate
      exact refusal?_recognized refuses
  · exact move.recognizes stock sound named done asked failure ends
  · simp [Failure.Recognized]

end Turn

namespace Session

variable {setup : Setup} {caller : Nat} {origin session : Session} {past : List Episode}

theorem Course.recognized (stock : setup.handlers = Handler.stock) (sound : origin.Sound)
    (course : Course setup caller origin past session) {episode : Episode}
    (member : episode ∈ past) {message : Message} {command : Command}
    (named : message.command = some command) {told : Option Command} {failure : Failure}
    (fails : episode.deed.outcome? = some (message, .failure told failure)) :
    failure.Recognized := by
  obtain ⟨before, shared, earlier, first, same, move⟩ := course.split_of_mem member
  refine move.recognized stock ?_ named fails
  rw [same]
  exact first.sound stock sound

/-- What a status answer promises is kept. Take any moment of a session that is logged in at a
library, with any policy and any station. Asked for its status, the session answers at once from
what is so at this moment, and with the bundled templates the answer reads as it should. The gate
lets through exactly the commands that this answer advertises. Every command but one has a handler,
and that one the session answers itself; a new request with a command that is advertised goes to
its handler. And in no session, whatever happens to it, a request that has a command fails for want
of a handler. -/
theorem advertised_commands_served (setup : Setup) (stock : setup.handlers = Handler.stock)
    (caller : Nat) (turn : Turn) {tenant : TenantId}
    (authenticated : turn.session.context.isAuthenticated = true)
    (bound : turn.session.context.tenant = some tenant) :
    let policy := turn.shared.policy
    let context := turn.session.context
    let acs := (policy.profile tenant).acs
    let now := setup.localTime turn.shared.now
    let answer := Answer.status tenant acs context.station now
    (∀ message, message.command = some .scStatus →
      Dispatch.start setup caller message turn.shared context =
        Dispatch.rest turn.shared context (.ok answer) ∧
      (setup.templates = Templates.bundled →
        Turn.rendered setup.templates message (Dispatch.outcome message (.ok answer)) =
          .ok (Answer.statusText tenant acs context.station now))) ∧
    (∀ command, Turn.refusal? policy context command = none ↔ Answer.Advertises answer command) ∧
    (∀ command, (setup.handlers.lookup command).isSome = true ↔ command ≠ .requestAcsResend) ∧
    (∀ frame message command, message.command = some command →
      (command = .requestAcsResend →
        Message.read frame (fieldDelimiter context.settings) = .ok message →
        turn.handleFrame setup caller frame = turn.repeatAnswer) ∧
      (Answer.Advertises answer command → turn.session.newRequest? frame = some message →
        turn.Serves setup caller frame message)) ∧
    ∀ shared name peer port past last,
      Course setup caller (start setup shared name peer port).session past last →
      ∀ episode ∈ past, ∀ message command, message.command = some command →
        ∀ told failure, episode.deed.outcome? = some (message, .failure told failure) →
          failure.Recognized := by
  have gate := Turn.refusal?_eq_none_iff_advertises turn.shared.policy authenticated bound
    (setup.localTime turn.shared.now)
  refine ⟨?_, gate, ?_, ?_, ?_⟩
  · intro message asks
    refine ⟨Dispatch.start_status stock asks bound, fun bundled => ?_⟩
    rw [bundled]
    simp only [Dispatch.outcome, asks, Turn.rendered]
    exact Answer.render_status _ _ _ _
  · intro command
    rw [stock, Handler.lookup_stock]
    exact Handler.stock?_isSome command
  · intro frame message command named
    refine ⟨?_, fun advertised new => ?_⟩
    · rintro rfl reads
      exact Turn.handleFrame_of_asked reads named
    · exact Turn.serves_of_newRequest? stock named ((gate command).mpr advertised) new
  · intro shared name peer port past last course episode member message command named told failure
      fails
    exact course.recognized stock (start_sound setup shared name peer port) member named fails

/-! A library whose station lends but takes nothing back, though the library would. -/

def lending : Policy where
  tenants := [(Desk.library, {
    acs := { supported := [.checkin, .checkout] }
    station := some { checkinOk := false }
    session := { errorDetection := false } })]

def atLending (session : Session) : Turn := session.turn (Desk.shared lending Desk.served)

/-- A login that finds its token in the store. -/
def entering : Episode :=
  let turn := atLending (Desk.session lending)
  let stretch := Dispatch.start Desk.setup 0 loginRequest turn.shared turn.session.context
  { before := turn
    deed := .dispatched (Text.bytesOf "9300CNu|COp|") loginRequest stretch
    after := turn.proceed Desk.setup loginRequest Desk.setup.requestTimeout stretch }

/-- A frame with an item, to be lent or taken back. -/
def itemFrame (opening : String) : List UInt8 :=
  Desk.line (opening ++ "20240101    12000020240101    120000AOmain|ABb1|")

def lendRequest : Message where
  code := "11"
  command := some .checkout
  fixed := [⟨"sc_renewal_policy", "Y"⟩, ⟨"no_block", "N"⟩,
    ⟨"transaction_date", "20240101    120000"⟩, ⟨"nb_due_date", "20240101    120000"⟩]
  tagged := [⟨"AO", "main"⟩, ⟨"AB", "b1"⟩]
  sequence := none
  checksum := none

def returnRequest : Message where
  code := "09"
  command := some .checkin
  fixed := [⟨"no_block", "N"⟩, ⟨"transaction_date", "20240101    120000"⟩,
    ⟨"return_date", "20240101    120000"⟩]
  tagged := [⟨"AO", "main"⟩, ⟨"AB", "b1"⟩]
  sequence := none
  checksum := none

def returning : Episode :=
  let turn := atLending entering.after.session
  { before := turn
    deed := .refused (itemFrame "09N") returnRequest (.notSupported .checkin)
    after := turn.answer Desk.setup returnRequest
      (.failure returnRequest.command { cause := .notSupported .checkin }) }

theorem returning_course :
    Course Desk.setup 0 (Desk.session lending) [returning, entering] returning.after.session := by
  have entered : Course Desk.setup 0 (Desk.session lending) [entering] entering.after.session :=
    .more .nil (.dispatched (by decide +kernel) (ok_of_toOption (by decide +kernel)) (by decide)
      (by decide +kernel) (by decide +kernel))
  exact .more entered (.refused (by decide +kernel) (ok_of_toOption (by decide +kernel))
    (by decide) (by decide +kernel) (by decide +kernel))

theorem advertised_commands_served_lending :
    let turn := atLending entering.after.session
    let context := turn.session.context
    let asks : Message := ⟨"99", some .scStatus, [], [], none, none⟩
    context.isAuthenticated = true ∧ context.tenant = some Desk.library ∧
      (∃ answer, Dispatch.start Desk.setup 0 asks turn.shared context =
          Dispatch.rest turn.shared context (.ok answer) ∧
        Turn.rendered Templates.bundled asks (Dispatch.outcome asks (.ok answer)) =
          .ok "98YNYNNN10000319700101    0000002.00AOmain|AM|BXNYYNYYYNNNNNNNNN|AN|" ∧
        Answer.Advertises answer .checkout ∧ ¬Answer.Advertises answer .checkin) ∧
      Turn.refusal? lending context .checkout = none ∧
      Turn.refusal? lending context .checkin ≠ none ∧
      turn.Serves Desk.setup 0 (itemFrame "11YN") lendRequest ∧
      Failure.Recognized { cause := .notSupported .checkin } := by
  intro turn context asks
  have authenticated : turn.session.context.isAuthenticated = true := by decide +kernel
  have bound : turn.session.context.tenant = some Desk.library := by decide +kernel
  obtain ⟨status, gate, -, served, recognized⟩ :=
    advertised_commands_served Desk.setup rfl 0 turn authenticated bound
  obtain ⟨answers, reads⟩ := status asks rfl
  have lends : Turn.refusal? lending context .checkout = none := by decide +kernel
  have refuses : Turn.refusal? lending context .checkin ≠ none := by decide +kernel
  refine ⟨authenticated, bound, ⟨_, answers, (reads rfl).trans ?_, (gate _).mp lends, ?_⟩, lends,
    refuses, ?_, ?_⟩
  · exact congrArg Except.ok (by decide +kernel)
  · exact fun advertised => refuses ((gate _).mpr advertised)
  · exact (served _ _ .checkout rfl).2 ((gate _).mp lends) (by decide +kernel)
  · exact recognized _ _ _ _ _ _ returning_course returning (by simp) returnRequest .checkin rfl
      _ _ rfl

end Session

end SelfCheck
