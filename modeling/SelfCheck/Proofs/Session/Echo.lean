import SelfCheck.Proofs.Answer.Echo
import SelfCheck.Proofs.Session.Failures

/-! What a terminal gets back of its own request.

The answer to a loan repeats the library, the patron and the item of the request. The terminal reads
them as it has written them, whatever the field delimiter is, if none of them holds the standard
one.
-/

set_option autoImplicit false

namespace SelfCheck

open Text (bytesOf)

namespace Turn

variable {setup : Setup} {caller : Nat} {turn after : Turn}

/-- What follows a turn is written behind it. -/
theorem settle_written (setup : Setup) (caller : Nat) (turn : Turn) :
    ∃ more, (turn.settle setup caller).written = turn.written ++ more := by
  have settles : ∃ past, Chain setup caller turn past (turn.settle setup caller) :=
    settle_chain turn
  obtain ⟨past, chain⟩ := settles
  rw [written, chain.effects, List.filterMap_append]
  exact ⟨_, rfl⟩

theorem delimited_loanColumns (settings : WireSettings) (now : Time.Moment) :
    delimited settings (Answer.loanColumns now) = Answer.loanColumns now := by
  apply delimited_eq_self
  rw [Answer.loanColumns, String.toList_append, List.mem_append]
  rintro (fixed | stamp)
  · revert fixed
    decide
  · exact Time.not_mem_stamp (by decide) now stamp

/-- A request in hand after a move has been taken up by the move, or has been in hand before. -/
theorem Move.executed_or_held {deed : Deed} {message : Message}
    (move : Move setup caller turn deed after) (pending : after.session.pending? = some message) :
    deed.executed? = some message ∨ deed.frame? = none ∧ turn.session.pending? = some message := by
  have balance := move.balance
  rw [pending] at balance
  cases takes : deed.frame? with
  | some frame =>
    rw [Session.pending?_of_isReading (move.reading takes)] at balance
    cases executes : deed.executed? with
    | none => simp [executes] at balance
    | some other =>
      exact .inl (congrArg some (by simpa [executes] using congrArg List.head? balance))
  | none =>
    rw [Deed.executed?_of_frameless takes] at balance
    cases held : turn.session.pending? with
    | none => simp [held] at balance
    | some other =>
      exact .inr ⟨rfl, congrArg some (by simpa [held] using congrArg List.head? balance)⟩

end Turn

namespace Session

variable {setup : Setup} {caller : Nat} {origin session : Session} {past : List Episode}
  {message : Message}

/-- A business request in hand has come in a frame that reads so under the session's delimiter. -/
theorem Course.accepted (stock : setup.handlers = Handler.stock) (sound : origin.Sound)
    (idle : origin.pending? = none) (course : Course setup caller origin past session)
    (pending : session.pending? = some message) (business : message.isBusiness = true) :
    ∃ frame, Message.read frame (fieldDelimiter session.context.settings) = .ok message := by
  induction course with
  | nil =>
    rw [idle] at pending
    cases pending
  | @more past before shared deed turn course move ih =>
    rcases move.executed_or_held pending with executes | ⟨frameless, held⟩
    · have settings : turn.session.context.settings = before.context.settings :=
        move.settings_of_executed stock (course.sound stock sound) business executes
      cases takes : deed.frame? with
      | none =>
        rw [Deed.executed?_of_frameless takes] at executes
        cases executes
      | some frame =>
        rw [move.executed?_eq takes] at executes
        rw [settings]
        exact ⟨frame, (newRequest?_eq_some executes).1⟩
    · have settings : turn.session.context.settings = before.context.settings :=
        move.settings_eq frameless
      rw [settings]
      exact ih held

/-- What the platform answers is completed from the request, and answered at once. -/
theorem step?_platform {account : Account} {deadline : Nat}
    (busy : session.activity = .handling message (.platform account) deadline) {command : Command}
    (named : message.command = some command) (shared : Shared) (answer : Json) :
    session.step? setup caller shared (.reply (.platform (.ok answer))) =
      some (((session.turn shared).answer setup message
        (.success command
          (Answer.complete command message (setup.localTime shared.now) answer))).settle
            setup caller) := by
  let stretch := Dispatch.rest shared session.context
    (.ok (Answer.complete command message (setup.localTime shared.now) answer))
  have goes : Dispatch.resume? setup caller message (.platform account) shared session.context
      (.platform (.ok answer)) = some stretch := by
    simp only [Dispatch.resume?, Dispatch.platformAnswered, named]
    rfl
  have ends : (session.turn shared).proceed setup message deadline stretch =
      (session.turn shared).answer setup message (Dispatch.outcome message
        (.ok (Answer.complete command message (setup.localTime shared.now) answer))) :=
    Turn.proceed_of_finished rfl _ message deadline
  simp only [step?, resume?, busy, goes, Option.map_some, ends, Dispatch.outcome, named]

/-- What a session writes when the platform has nothing to say about a loan. -/
theorem loan_written (bundled : setup.templates = Templates.bundled)
    (linked : session.brokenLink = none) {institution patron item : String}
    (place : message.field? "AO" = some institution) (person : message.field? "AA" = some patron)
    (thing : message.field? "AB" = some item) (shared : Shared) (now : Time.Moment) :
    ((session.turn shared).answer setup message
        (.success .checkout (Answer.complete .checkout message now .null))).written =
      [Turn.answerBytes session.context.settings message (Answer.loanColumns now ++
        Turn.delimited session.context.settings (String.join
          ((Answer.loanFields institution patron item).map (Message.taggedText '|'))))] := by
  have body : Turn.rendered setup.templates message
      (.success .checkout (Answer.complete .checkout message now .null)) =
        .ok (Answer.loanColumns now ++ String.join
          ((Answer.loanFields institution patron item).map (Message.taggedText '|'))) := by
    rw [bundled]
    exact Answer.render_loan place person thing now
  have whole : (session.turn shared).session.brokenLink = none := linked
  rw [Turn.answer_written_eq, if_pos whole, Turn.response, body, Except.toOption, Option.getD_some,
    Turn.delimited_append, Turn.delimited_loanColumns]
  rfl

/-- The answer to a loan repeats the request. Take a session that waits for the platform with a
loan that names the library, the patron and the item, whatever else is in it and whatever the
session's field delimiter is. When the platform answers with nothing, the session writes the
columns of a refused loan and five fields behind them; to a reader who knows the delimiter these are
the three of the request and two that are empty, just when the standard delimiter is in none of the
three. The same holds of whatever fields a body has once the session's delimiter is put in place. -/
theorem loan_echoes_request (stock : setup.handlers = Handler.stock)
    (bundled : setup.templates = Templates.bundled) {name : String} {peer : Net.SocketAddress}
    {port : Nat} {shared : Shared}
    (course : Course setup caller (start setup shared name peer port).session past session)
    {account : Account} {deadline : Nat}
    (busy : session.activity = .handling message (.platform account) deadline)
    (checkout : message.command = some .checkout) (linked : session.brokenLink = none)
    {institution patron item : String} (place : message.field? "AO" = some institution)
    (person : message.field? "AA" = some patron) (thing : message.field? "AB" = some item)
    (now : Shared) :
    let settings := session.context.settings
    (∃ turn body more,
      session.step? setup caller now (.reply (.platform (.ok .null))) = some turn ∧
      turn.written =
        Turn.answerBytes settings message
          (Answer.loanColumns (setup.localTime now.now) ++ body) :: more ∧
      (Message.readTagged (fieldDelimiter settings) (bytesOf body) =
          .ok [⟨"AO", institution⟩, ⟨"AA", patron⟩, ⟨"AB", item⟩, ⟨"AJ", ""⟩, ⟨"AH", ""⟩] ↔
        ∀ value ∈ [institution, patron, item], '|' ∉ value.toList)) ∧
    ∀ fields : List TaggedField,
      (∀ field ∈ fields, (bytesOf field.tag).length = 2 ∧ '|' ∉ field.tag.toList) →
      (∀ field ∈ fields, fieldMark settings ∉ field.value.toList) →
      (Message.readTagged (fieldDelimiter settings) (Turn.echoed settings fields) = .ok fields ↔
        ∀ field ∈ fields, '|' ∉ field.value.toList) := by
  intro settings
  obtain ⟨-, idle, -⟩ := start_session setup shared name peer port
  have business : message.isBusiness = true := Message.isBusiness_of_command checkout
  obtain ⟨frame, reads⟩ := course.accepted stock (start_sound setup shared name peer port) idle
    (pending?_of_handling busy) business
  have values : ∀ value ∈ [institution, patron, item], fieldMark settings ∉ value.toList := by
    simp only [List.forall_mem_cons]
    exact ⟨Message.field?_free reads place, Message.field?_free reads person,
      Message.field?_free reads thing, by simp⟩
  obtain ⟨more, settled⟩ := Turn.settle_written setup caller
    ((session.turn now).answer setup message
      (.success .checkout (Answer.complete .checkout message (setup.localTime now.now) .null)))
  rw [loan_written bundled linked place person thing] at settled
  refine ⟨⟨_, _, more, step?_platform busy checkout now .null, settled, ?_⟩, ?_⟩
  · exact Answer.readTagged_loan values
  · intro fields tags free
    exact Turn.readTagged_echoed tags free

/-! Loans at a library whose field delimiter is a caret. -/

def caretPolicy : Policy where
  tenants := [(Desk.library, {
    acs := { supported := [.checkout] }
    session := { errorDetection := false, fieldDelimiter := '^' } })]

def atCarets (session : Session) : Turn := session.turn (Desk.shared caretPolicy Desk.served)

/-- A new request there. -/
def handingIn (frame : String) (message : Message) (session : Session) : Episode :=
  let turn := atCarets session
  let stretch := Dispatch.start Desk.setup 0 message turn.shared turn.session.context
  { before := turn
    deed := .dispatched (bytesOf frame) message stretch
    after := turn.proceed Desk.setup message Desk.setup.requestTimeout stretch }

def loanRequest (patron : String) : Message where
  code := "11"
  command := some .checkout
  fixed := [⟨"sc_renewal_policy", "Y"⟩, ⟨"no_block", "N"⟩,
    ⟨"transaction_date", "20240101    120000"⟩, ⟨"nb_due_date", "20240101    120000"⟩]
  tagged := [⟨"AO", "main"⟩, ⟨"AA", patron⟩, ⟨"AB", "b1"⟩]
  sequence := none
  checksum := none

def signingIn : Episode := handingIn "9300CNu^COp^" loginRequest (Desk.session caretPolicy)

def borrowing (patron : String) : Episode :=
  handingIn ("11YN20240101    12000020240101    120000AOmain^AA" ++ patron ++ "^ABb1^")
    (loanRequest patron) signingIn.after.session

theorem borrowing_course (patron : String) (plain : patron = "p1" ∨ patron = "p|1") :
    Course Desk.setup 0 (Desk.session caretPolicy) [borrowing patron, signingIn]
      (borrowing patron).after.session := by
  have signed :
      Course Desk.setup 0 (Desk.session caretPolicy) [signingIn] signingIn.after.session :=
    .more .nil (.dispatched (by decide +kernel) (ok_of_toOption (by decide +kernel)) (by decide)
      (by decide +kernel) (by decide +kernel))
  rcases plain with rfl | rfl <;>
    exact .more signed (.dispatched (by decide +kernel) (ok_of_toOption (by decide +kernel))
      (by decide) (by decide +kernel) (by decide +kernel))

theorem loan_echoes_request_caret :
    let session := (borrowing "p1").after.session
    let shared := (atCarets session).shared
    ∃ turn body more,
      session.step? Desk.setup 0 shared (.reply (.platform (.ok .null))) = some turn ∧
      turn.written = Turn.answerBytes session.context.settings (loanRequest "p1")
        (Answer.loanColumns shared.now ++ body) :: more ∧
      Message.readTagged 94 (bytesOf body) =
        .ok [⟨"AO", "main"⟩, ⟨"AA", "p1"⟩, ⟨"AB", "b1"⟩, ⟨"AJ", ""⟩, ⟨"AH", ""⟩] ∧
      Message.readTagged 94 (Turn.echoed session.context.settings [⟨"AF", "no|loan"⟩]) ≠
        .ok [⟨"AF", "no|loan"⟩] := by
  intro session shared
  obtain ⟨⟨turn, body, more, steps, wrote, reads⟩, content⟩ :=
    loan_echoes_request rfl rfl (borrowing_course "p1" (.inl rfl)) rfl rfl rfl rfl rfl rfl shared
  refine ⟨turn, body, more, steps, wrote, reads.mpr (by decide), fun read => ?_⟩
  have free := (content [⟨"AF", "no|loan"⟩] (by decide) (by decide +kernel)).mp read
  exact free _ List.mem_cons_self (by decide)

/-- A patron with the standard delimiter in the number, which a caret makes legal, is cut there;
what is left of the number takes the place of a tag, and the item is lost. -/
theorem loan_cut_at_bar :
    let session := (borrowing "p|1").after.session
    let shared := (atCarets session).shared
    Course Desk.setup 0 (Desk.session caretPolicy) [borrowing "p|1", signingIn] session ∧
      session.activity = .handling (loanRequest "p|1") (.platform Desk.account)
        Desk.setup.requestTimeout ∧
      (session.step? Desk.setup 0 shared (.reply (.platform (.ok .null)))).map Turn.written =
        some [bytesOf "120NUU19700101    000000AOmain^AAp^1^ABb1^AJ^AH^\r"] ∧
      Message.readTagged 94 (bytesOf "AOmain^AAp^1^ABb1^AJ^AH^") =
        .ok [⟨"AO", "main"⟩, ⟨"AA", "p"⟩, ⟨"1^", "ABb1"⟩, ⟨"AJ", ""⟩, ⟨"AH", ""⟩] :=
  ⟨borrowing_course "p|1" (.inr rfl), rfl, by decide +kernel, ok_of_toOption (by decide +kernel)⟩

end Session

end SelfCheck
