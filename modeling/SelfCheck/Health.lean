/-! What a gateway tells about its health. -/

set_option autoImplicit false

namespace SelfCheck

structure Health where
  listening : Bool := false
  configLoaded : Bool := false
  deriving DecidableEq, Repr

namespace Health

/-- A gateway is ready when it listens and has a policy. -/
def isReady (health : Health) : Bool := health.listening && health.configLoaded

structure Reply where
  status : Nat
  body : String
  deriving DecidableEq, Repr

/-- The reply to a request for a path. -/
def reply (health : Health) (method path : String) : Reply :=
  if method ≠ "GET" then ⟨405, ""⟩
  else if path = "/healthz" then ⟨200, "ok"⟩
  else if path = "/readyz" then
    if health.isReady then ⟨200, "ready"⟩ else ⟨503, "not-ready"⟩
  else ⟨404, ""⟩

end Health

end SelfCheck
