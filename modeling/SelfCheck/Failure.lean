import SelfCheck.Frame.Error
import SelfCheck.Platform
import SelfCheck.Template

/-! Why a request fails.

The terminal sees the same text whatever the cause is; the detail is for the operator.
-/

set_option autoImplicit false

namespace SelfCheck

inductive FailureKind where
  | malformedMessage
  | tenantNotResolved
  | missingAccessToken
  | unsupported
  | platform
  | render
  deriving DecidableEq, Repr

namespace FailureKind

def all : List FailureKind :=
  [malformedMessage, tenantNotResolved, missingAccessToken, unsupported, platform, render]

def name : FailureKind → String
  | malformedMessage => "malformed_message"
  | tenantNotResolved => "tenant_not_resolved"
  | missingAccessToken => "missing_access_token"
  | unsupported => "unsupported"
  | platform => "upstream"
  | render => "render"

def title : FailureKind → String
  | malformedMessage => "MalformedMessage"
  | tenantNotResolved => "TenantNotResolved"
  | missingAccessToken => "MissingAccessToken"
  | unsupported => "Unsupported"
  | platform => "Upstream"
  | render => "Render"

end FailureKind

/-- Sessions stand in causes by their names. -/
inductive Cause where
  | malformed (fault : FrameError)
  | unrenderable (fault : RenderError)
  | unresolved (session : String)
  | boundElsewhere (session : String) (bound refused : TenantId)
  | namelessLogin
  | loginRefused (user : String) (error : PlatformError)
  | notLoggedIn
  | loginLost (error : PlatformError)
  | tokenRefused
  | platform (error : PlatformError)
  | deadline (command : Command)
  | beforeLogin (command : Command)
  | notSupported (command : Command)
  | unrecognized (code : String)
  /-- A failure that a handler of the embedding program reports. -/
  | reported (kind : FailureKind) (message detail : String)
  deriving DecidableEq, Repr

namespace Cause

def kind : Cause → FailureKind
  | malformed _ => .malformedMessage
  | unrenderable _ => .render
  | unresolved _ | boundElsewhere .. => .tenantNotResolved
  | namelessLogin | loginRefused .. | notLoggedIn | loginLost _ | tokenRefused | beforeLogin _ =>
    .missingAccessToken
  | platform _ | deadline _ => .platform
  | notSupported _ | unrecognized _ => .unsupported
  | reported kind .. => kind

def detail : Cause → String
  | malformed fault => fault.message
  | unrenderable fault => fault.message
  | unresolved session => "no tenant resolved for session " ++ session
  | boundElsewhere session bound refused =>
    "session " ++ session ++ " is bound to " ++ bound.text ++ ", refusing " ++ refused.text
  | namelessLogin => "login without a user id"
  | loginRefused user error => "login for " ++ user ++ " failed: " ++ error.message
  | notLoggedIn => "session has no login credentials"
  | loginLost error => "re-authentication failed: " ++ error.message
  | tokenRefused => "platform rejected the access token"
  | platform error => error.message
  | deadline command => command.name ++ " did not complete before the upstream timeout"
  | beforeLogin command => command.name ++ " received before login"
  | notSupported command => command.name ++ " is not supported for this tenant or station"
  | unrecognized code => "no handler for message code " ++ Text.quoted code
  | reported _ _ detail => detail

/-- What the terminal is told. -/
def troubleText : String := "There was a problem handling the request"

def publicText : Cause → String
  | reported _ message _ => message
  | _ => troubleText

end Cause

/-- A failure may come with the model of an answer in the command's own form. -/
structure Failure where
  cause : Cause
  answer : Option Json := none
  deriving Repr

/-- A failure as the operator reads it. -/
def Failure.display (failure : Failure) : String :=
  failure.cause.kind.title ++ ": " ++ failure.cause.detail

end SelfCheck
