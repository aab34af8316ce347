import SelfCheck.Dispatch
import SelfCheck.Frame.Split
import SelfCheck.Message.Reader
import SelfCheck.Session.Sequence

/-! One terminal's connection, from its first byte to its end.

A session works in turns. It begins a turn when something happens that it waits for, and works
until it has to wait again: for bytes from the terminal, or for what its request needs. Requests
are handled one at a time in the order of their frames.
-/

set_option autoImplicit false

namespace SelfCheck

/-- Why a session is over. -/
inductive Ending where
  | hungUp
  | idle
  | endOfPatron
  | readFault (text : String)
  | writeFault (text : String)
  | unresolved (failure : Failure)
  deriving Repr

/-- The error a session ends with, if it is one. -/
def Ending.error? : Ending → Option String
  | hungUp | idle | endOfPatron => none
  | readFault text => some ("read from terminal: " ++ text)
  | writeFault text => some ("write to terminal: " ++ text)
  | unresolved failure => some ("tenant resolution at connect: " ++ failure.display)

inductive Activity where
  /-- Waiting for the terminal since a time of the timer clock. -/
  | reading (since : Nat)
  /-- Waiting for what a request needs, until a time of the timer clock. -/
  | handling (message : Message) (wait : Wait) (deadline : Nat)
  | over (ending : Ending)
  deriving Repr

structure Session where
  context : Context
  sequence : Sequence := {}
  /-- The last answer to a request, as it was sent. -/
  lastAnswer : Option (List UInt8) := none
  /-- Bytes received that belong to no frame yet. -/
  buffer : List UInt8 := []
  /-- Why bytes no longer reach the terminal. -/
  brokenLink : Option String := none
  activity : Activity
  deriving Repr

/-- A turn of a session as far as it has gone. -/
structure Turn where
  shared : Shared
  session : Session
  effects : List Effect := []

namespace Session

/-- Delimiters are single bytes: another one than an ASCII character does not count. -/
def asciiOr (c : Char) (standard : UInt8) : UInt8 :=
  if c.toNat < 128 then UInt8.ofNat c.toNat else standard

def standardFieldDelimiter : UInt8 := 124

def messageDelimiter (settings : WireSettings) : UInt8 :=
  asciiOr settings.messageDelimiter Frame.carriageReturn

def fieldDelimiter (settings : WireSettings) : UInt8 :=
  asciiOr settings.fieldDelimiter standardFieldDelimiter

/-- Whether the session waits for the terminal. -/
def isReading (session : Session) : Bool :=
  match session.activity with
  | .reading _ => true
  | _ => false

def ending? (session : Session) : Option Ending :=
  match session.activity with
  | .over ending => some ending
  | _ => none

end Session

namespace Turn

def settings (turn : Turn) : WireSettings := turn.session.context.settings

def count (turn : Turn) (tally : Tally) : Turn :=
  { turn with effects := turn.effects ++ [.count tally] }

def withContext (turn : Turn) (context : Context) : Turn :=
  { turn with session := { turn.session with context } }

/-- The session is over. -/
def finish (turn : Turn) (ending : Ending) : Turn :=
  { turn with session := {
      turn.session with
      context := turn.session.context.close
      activity := .over ending } }.count .sessionEnded

/-- Send bytes to the terminal; a session that cannot is over. -/
def write (turn : Turn) (bytes : List UInt8) : Turn :=
  match turn.session.brokenLink with
  | none => { turn with effects := turn.effects ++ [.write bytes] }
  | some text => (turn.count .socketError).finish (.writeFault text)

/-- Ask the terminal to send its request again. -/
def askAgain (turn : Turn) : Turn :=
  turn.write
    (Frame.resendRequest turn.settings.errorDetection (Session.messageDelimiter turn.settings))

/-- Send the last answer again. -/
def repeatAnswer (turn : Turn) : Turn :=
  match turn.session.lastAnswer with
  | some bytes => turn.write bytes
  | none => turn.askAgain

def rejectMalformed (turn : Turn) (fault : FrameError) : Turn :=
  (turn.count (.malformed fault.kind)).askAgain

/-! Answering. -/

/-- The body of the answer to a request, before the field delimiter is put in place. -/
def rendered (templates : Templates) (message : Message) : Outcome → Except RenderError String
  | .success command model => templates.render command model
  | .failure command failure =>
    match command, failure.answer with
    | some command, some answer => templates.render command answer
    | _, _ => templates.renderFailure command message.code failure.cause.publicText

/-- A body with the session's field delimiter in place of the standard one. -/
def delimited (settings : WireSettings) (body : String) : String :=
  let delimiter := Session.fieldDelimiter settings
  String.ofList (body.toList.map fun c => if c = '|' then Char.ofNat delimiter.toNat else c)

/-- The bytes of an answer. -/
def answerBytes (settings : WireSettings) (message : Message) (body : String) : List UInt8 :=
  let trailer : Frame.Trailer :=
    if !settings.errorDetection then .none
    else match message.sequence with
      | some digit => .sequenced (UInt8.ofNat digit.val)
      | none => .checksum
  Frame.encode body trailer (Session.messageDelimiter settings)

/-- The tallies of an outcome and of rendering its answer. -/
def answerTallies (outcome : Outcome) (body : Except RenderError String) : List Effect :=
  (if outcome.isSuccess then [] else [.count .requestError]) ++
    match body with
    | .ok _ => []
    | .error _ => [.count .responseError]

/-- Whether an outcome ends the session. -/
def endsSession (settings : WireSettings) (message : Message) (outcome : Outcome) : Bool :=
  message.command = some .endPatronSession && outcome.isSuccess && settings.closeOnEndSession

/-- Answer a request; an answer that cannot be rendered is empty. -/
def answer (setup : Setup) (turn : Turn) (message : Message) (outcome : Outcome) : Turn :=
  let body := rendered setup.templates message outcome
  let bytes := answerBytes turn.settings message (delimited turn.settings (body.toOption.getD ""))
  let sent := { turn with
      session := { turn.session with
        sequence := turn.session.sequence.advance message
        lastAnswer := some bytes
        activity := .reading turn.shared.clock }
      effects := turn.effects ++ answerTallies outcome body }.write bytes
  if sent.session.isReading then
    let counted := sent.count (.answered message.command)
    if endsSession sent.settings message outcome then counted.finish .endOfPatron else counted
  else sent

/-! Handling frames. -/

/-- Why a request is not to be handled: nobody is logged in, or the policy or the station does not
allow it. -/
def refusal? (policy : Policy) (context : Context) (command : Command) : Option Cause :=
  if command.isSessionControl then none
  else if !context.isAuthenticated then some (.beforeLogin command)
  else match context.tenant with
    | none => some (.unresolved context.session)
    | some tenant =>
      let stationAllows := match command with
        | .checkin => context.station.checkinOk
        | .checkout => context.station.checkoutOk
        | _ => true
      if (policy.profile tenant).acs.supports command && stationAllows then none
      else some (.notSupported command)

/-- Take over what a stretch of handling a request has done. -/
def proceed (setup : Setup) (turn : Turn) (message : Message) (deadline : Nat)
    (stretch : Stretch) : Turn :=
  let turn := { turn with
    shared := stretch.shared
    session := { turn.session with context := stretch.context }
    effects := turn.effects ++ stretch.effects }
  match stretch.stage with
  | .waiting wait =>
    { turn with session := { turn.session with activity := .handling message wait deadline } }
  | .finished result => turn.answer setup message (Dispatch.outcome message result)

/-- Handle a new request. -/
def execute (setup : Setup) (caller : Nat) (turn : Turn) (message : Message) : Turn :=
  match message.command.bind (refusal? turn.shared.policy turn.session.context) with
  | some cause => turn.answer setup message (.failure message.command { cause })
  | none =>
    turn.proceed setup message (turn.shared.clock + setup.requestTimeout)
      (Dispatch.start setup caller message turn.shared turn.session.context)

/-- Handle a request according to its place in the sequence. -/
def receive (setup : Setup) (caller : Nat) (turn : Turn) (message : Message) : Turn :=
  if message.command = some .requestAcsResend then turn.repeatAnswer
  else match turn.session.sequence.classify message turn.settings.errorDetection with
    | .fresh => turn.execute setup caller message
    | .repeated => (turn.count .resend).repeatAnswer
    | .invalid => (turn.count .invalidMessage).askAgain

/-- Handle one frame. -/
def handleFrame (setup : Setup) (caller : Nat) (turn : Turn) (frame : List UInt8) : Turn :=
  match Message.read frame (Session.fieldDelimiter turn.settings) with
  | .ok message => turn.receive setup caller message
  | .error fault => turn.rejectMalformed fault

def withBuffer (turn : Turn) (buffer : List UInt8) : Turn :=
  { turn with session := { turn.session with buffer } }

/-- Handle the frames in front of some bytes, as long as the session does not wait for anything but
the terminal. What is too large for a frame is given up with everything behind it. -/
def drain (setup : Setup) (caller : Nat) (turn : Turn) (bytes : List UInt8) : Turn :=
  match _taken : Frame.split (Session.messageDelimiter turn.settings) setup.maxFrame bytes with
  | .incomplete rest => turn.withBuffer rest
  | .tooLarge length _ =>
    (turn.withBuffer []).rejectMalformed (.tooLarge length setup.maxFrame)
  | .frame frame rest =>
    let turn := turn.handleFrame setup caller frame
    if turn.session.isReading then drain setup caller turn rest else turn.withBuffer rest
termination_by bytes.length
decreasing_by exact Frame.length_rest_lt _taken

/-- Handle the frames that have been received. -/
def settle (setup : Setup) (caller : Nat) (turn : Turn) : Turn :=
  if turn.session.isReading then
    let turn := turn.drain setup caller turn.session.buffer
    if turn.session.isReading then
      { turn with session := { turn.session with activity := .reading turn.shared.clock } }
    else turn
  else turn

end Turn

namespace Session

/-! What a session may be told. -/

/-- A connection has been made: find the library that it belongs to, or leave that to a login. -/
def start (setup : Setup) (shared : Shared) (name : String) (peer : Net.SocketAddress)
    (port : Nat) : Turn :=
  let context := Context.start name peer port setup.settings setup.station
  let turn : Turn := {
    shared
    session := { context, activity := .reading shared.clock }
    effects := [.count .sessionStarted, .count .sessionCounted] }
  let refused (turn : Turn) (cause : Cause) : Turn := turn.finish (.unresolved { cause })
  match setup.resolvers.resolve? .connect context.facts with
  | some resolved =>
    match context.bindAndAdopt resolved.tenant .connect shared.policy with
    | .ok context => turn.withContext context.awaitLogin
    | .error cause => refused turn cause
  | none =>
    if setup.resolvers.hasPhase .login then turn.withContext context.awaitLogin
    else refused (turn.count .unresolved) (.unresolved name)

def turn (session : Session) (shared : Shared) : Turn := { shared, session }

/-- What may happen to a session. -/
inductive Signal where
  /-- Bytes have come from the terminal. -/
  | received (bytes : List UInt8)
  | hungUp
  | readFault (text : String)
  /-- The terminal has been silent for too long. -/
  | idle
  /-- From now on bytes do not reach the terminal. -/
  | linkBroken (text : String)
  /-- What the request waits for has come. -/
  | reply (reply : Reply)
  /-- The login of the request has taken too long. -/
  | loginTimeout
  /-- The request has taken too long. -/
  | deadline

/-- Go on with the request that the session handles. -/
def resume? (setup : Setup) (caller : Nat) (session : Session) (shared : Shared) (reply : Reply) :
    Option Turn :=
  match session.activity with
  | .handling message wait deadline =>
    (Dispatch.resume? setup caller message wait shared session.context reply).map fun stretch =>
      ((session.turn shared).proceed setup message deadline stretch).settle setup caller
  | _ => none

/-- Whether the login of a caller has taken too long. -/
def loginIsLate (shared : Shared) (caller : Nat) : Bool :=
  (shared.logins.share? caller).any fun share => share.deadline.any (· ≤ shared.clock)

/-- Whether a session has waited too long for the terminal. -/
def isIdle (setup : Setup) (shared : Shared) (since : Nat) : Bool :=
  setup.idleTimeout ≠ 0 && since + setup.idleTimeout ≤ shared.clock

/-- What is left of a request once its time is over. -/
def lateOutcome (message : Message) : Outcome :=
  match message.command with
  | some command => .failure (some command) { cause := .deadline command }
  | none => .failure none { cause := .unrecognized message.code }

/-- The turn that a signal makes a session begin; none when the session does not wait for it. -/
def step? (setup : Setup) (caller : Nat) (session : Session) (shared : Shared) :
    Signal → Option Turn
  | .received bytes =>
    if session.isReading && bytes ≠ [] then
      some (((session.turn shared).withBuffer (session.buffer ++ bytes)).settle setup caller)
    else none
  | .hungUp => if session.isReading then some ((session.turn shared).finish .hungUp) else none
  | .readFault text =>
    if session.isReading then
      some (((session.turn shared).count .socketError).finish (.readFault text))
    else none
  | .idle =>
    match session.activity with
    | .reading since =>
      if isIdle setup shared since then
        some (((session.turn shared).count .idleTimeout).finish .idle)
      else none
    | _ => none
  | .linkBroken text =>
    if session.ending?.isNone then
      some ({ session with brokenLink := some text }.turn shared)
    else none
  | .reply reply => session.resume? setup caller shared reply
  | .loginTimeout =>
    if loginIsLate shared caller then
      session.resume? setup caller shared (.login (.error .timeout))
    else none
  | .deadline =>
    match session.activity with
    | .handling message _ deadline =>
      if deadline ≤ shared.clock then
        let shared := { shared with logins := shared.logins.leave caller }
        some (((session.turn shared).answer setup message (lateOutcome message)).settle setup caller)
      else none
    | _ => none

end Session

end SelfCheck
