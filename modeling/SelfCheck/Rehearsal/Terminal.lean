import SelfCheck.Gateway
import SelfCheck.Rehearsal.Cast

/-! Playing a whole session: a terminal that follows a script, and a cast that replies.

The terminal takes a cue whenever the session reads and has received everything sent so far. A cue
that stands for a silence lets time pass on the timer clock.
-/

set_option autoImplicit false

namespace SelfCheck.Rehearsal

inductive Cue where
  | send (bytes : List UInt8)
  | silence (milliseconds : Nat)
  | hangUp
  | readFault (text : String)
  | writeFault (text : String)
  | setWallClock (now : Time.Moment)
  | replacePolicy (policy : Policy)
  | invalidate (account : Account)

def Cue.name : Cue → String
  | send _ => "send"
  | silence _ => "wait_ms"
  | hangUp => "eof"
  | readFault _ => "read_error"
  | writeFault _ => "write_error"
  | setWallClock _ => "now"
  | replacePolicy _ => "tenants"
  | invalidate _ => "invalidate"

/-- A session while it is played. -/
structure Scene where
  setup : Setup
  shared : Shared
  session : Session
  cast : Cast
  effects : List Effect

/-- What one cue led to. -/
structure Entry where
  cue : String
  effects : List Effect
  cached : Nat
  pending : Nat

/-- A script played to the end. -/
structure Performance where
  /-- The effects before the first cue. -/
  opening : List Effect
  entries : List Entry
  unused : Nat
  ending : Option Ending

namespace Scene

/-- The only session. -/
def number : Nat := 0

/-- A read brings this many bytes at most. -/
def readSize : Nat := 4096

def take (scene : Scene) (turn : Turn) : Scene :=
  { scene with
    shared := turn.shared, session := turn.session, effects := scene.effects ++ turn.effects }

/-- Give the session a signal; one it does not wait for changes nothing. -/
def signal (scene : Scene) (signal : Session.Signal) : Scene :=
  match scene.session.step? scene.setup number scene.shared signal with
  | some turn => scene.take turn
  | none => scene

def atClock (scene : Scene) (clock : Nat) : Scene :=
  { scene with shared := { scene.shared with clock } }

/-- Play on until the session waits for the terminal or is over. -/
def serve : Nat → Scene → Scene
  | 0, scene => scene
  | fuel + 1, scene =>
    match scene.session.activity with
    | .handling message wait deadline =>
      let (reply, cast) := scene.cast.next message scene.shared.now wait
      let (clock, which) := first (scene.shared.clock + reply.delay)
        (loginDeadline? scene.shared number) (some deadline)
      let scene := { scene with cast }.atClock clock
      serve fuel <| scene.signal <| match which with
        | .reply => .reply reply.value
        | .loginTimeout => .loginTimeout
        | .deadline => .deadline
    | _ => scene

/-- The session receives the bytes of one read. A request takes two bytes at least and makes two
calls at most, which bounds the waits. -/
def receive (scene : Scene) (bytes : List UInt8) : Scene :=
  (scene.signal (.received bytes)).serve (scene.session.buffer.length + bytes.length + 1)

/-- The reads that bring some bytes. -/
def reads (bytes : List UInt8) : List (List UInt8) :=
  if _h : bytes = [] then []
  else bytes.take readSize :: reads (bytes.drop readSize)
termination_by bytes.length
decreasing_by
  rw [List.length_drop]
  exact Nat.sub_lt (List.length_pos_iff.2 _h) (by decide : 0 < readSize)

def send (scene : Scene) (bytes : List UInt8) : Scene := (reads bytes).foldl receive scene

/-- The terminal is silent; if the session does not put up with it, the session is over. -/
def silence (scene : Scene) (milliseconds : Nat) : Scene :=
  let target := scene.shared.clock + milliseconds
  match scene.session.activity with
  | .reading since =>
    let limit := since + scene.setup.idleTimeout
    if scene.setup.idleTimeout ≠ 0 && limit < target then
      (scene.atClock (max scene.shared.clock limit)).signal .idle
    else scene.atClock target
  | _ => scene

/-- Do what a cue says. -/
def perform (scene : Scene) : Cue → Scene
  | .send bytes => scene.send bytes
  | .silence milliseconds => scene.silence milliseconds
  | .hangUp => scene.signal .hungUp
  | .readFault text => scene.signal (.readFault text)
  | .writeFault text => scene.signal (.linkBroken text)
  | .setWallClock now => { scene with shared := { scene.shared with now } }
  | .replacePolicy policy =>
    { scene with
      shared := { scene.shared with policy }
      effects := scene.effects ++ [.count (.policyReload true)] }
  | .invalidate account =>
    { scene with
      shared := { scene.shared with logins := scene.shared.logins.invalidate account } }

def entry (scene : Scene) (cue : Cue) : Entry :=
  { cue := cue.name
    effects := scene.effects
    cached := scene.shared.logins.cache.size
    pending := scene.shared.logins.pending }

/-- Play the cues that are left, and hang up at the end; entries are in reverse order. -/
def play (scene : Scene) (entries : List Entry) : List Cue → List Entry × Nat × Scene
  | [] =>
    match scene.session.ending? with
    | some _ => (entries, 0, scene)
    | none =>
      let scene := { scene with effects := [] }.perform .hangUp
      (scene.entry .hangUp :: entries, 0, scene)
  | cue :: cues =>
    match scene.session.ending? with
    | some _ => (entries, (cue :: cues).length, scene)
    | none =>
      let scene := { scene with effects := [] }.perform cue
      play scene (scene.entry cue :: entries) cues

end Scene

/-- Play a session from its first moment. -/
def perform (setup : Setup) (shared : Shared) (name : String) (peer : Net.SocketAddress)
    (port : Nat) (cast : Cast) (cues : List Cue) : Performance :=
  let turn := Session.start setup shared name peer port
  let (entries, unused, scene) :=
    Scene.play ⟨setup, turn.shared, turn.session, cast, []⟩ [] cues
  { opening := turn.effects, entries := entries.reverse, unused
    ending := scene.session.ending? }

end SelfCheck.Rehearsal
