import SelfCheck.Rehearsal.Cast

/-! Playing one request without a session around it: nothing but its logins has a deadline. -/

set_option autoImplicit false

namespace SelfCheck.Rehearsal

/-- A request while it is played. -/
structure Request where
  shared : Shared
  context : Context
  cast : Cast
  effects : List Effect

namespace Request

/-- The only caller. -/
def caller : Nat := 0

/-- Play on until there is a result. Fewer than `fuel` waits are enough for every handler. -/
def finish (setup : Setup) (message : Message) : Nat → Stretch → Cast → Request × Outcome
  | 0, stretch, cast =>
    (⟨stretch.shared, stretch.context, cast, stretch.effects⟩,
      Dispatch.outcome message (.error { cause := .unrecognized message.code }))
  | fuel + 1, stretch, cast =>
    match stretch.stage with
    | .finished result =>
      (⟨stretch.shared, stretch.context, cast, stretch.effects⟩, Dispatch.outcome message result)
    | .waiting wait =>
      let shared := stretch.shared
      let (reply, cast) := cast.next message shared.now wait
      let (clock, which) :=
        first (shared.clock + reply.delay) (loginDeadline? shared caller) none
      let value := if which = .reply then reply.value else .login (.error .timeout)
      match Dispatch.resume? setup caller message wait { shared with clock } stretch.context value with
      | some next => finish setup message fuel (next.after stretch.effects) cast
      | none => finish setup message fuel stretch cast

/-- Play a request; the effects are those of this request. -/
def play (setup : Setup) (shared : Shared) (context : Context) (cast : Cast) (message : Message) :
    Request × Outcome :=
  finish setup message 4 (Dispatch.start setup caller message shared context) cast

end Request

end SelfCheck.Rehearsal
