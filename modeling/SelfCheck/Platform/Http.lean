import SelfCheck.Json.Reader
import SelfCheck.Net.Url
import SelfCheck.Platform
import SelfCheck.Time.Instant
import SelfCheck.Tree.Fields

/-! A library platform that is reached over HTTP.

Requests are carried and bodies are read by others. How a body reads as text, and in which words a
bad address or a bad body is told, is theirs to say.
-/

set_option autoImplicit false

namespace SelfCheck

/-- A request that brings a JSON body. -/
structure HttpRequest where
  url : Net.Url
  tenant : TenantId
  /-- The token that the request is made with. -/
  bearer : Option String
  body : Json
  deriving Repr

structure HttpResponse where
  status : Nat
  body : List UInt8
  /-- What the body reads as, by the character set of the response; nothing if it cannot be read. -/
  text : String := Text.decode body
  deriving DecidableEq, Repr

/-- Whoever carries a request to the platform and its response back. A success with a body that does
not come whole is an error of the carrier's. -/
abbrev Carrier := HttpRequest → Except PlatformError HttpResponse

structure HttpPlatform where
  /-- Paths are below this folder. -/
  folder : Net.Url
  loginPath : String := "authn/login-with-expiry"
  commandFolder : String := "sip2"
  /-- Seconds that a token lasts when the platform does not say. -/
  access : Int := 600
  refresh : Int := 604800
  /-- What is wrong with a path that has no address below the folder. -/
  pathFault : String → String := fun _ => "relative URL without a base"
  /-- What is wrong with a body that is not the JSON asked for. -/
  bodyFault : List UInt8 → String := fun _ => "error decoding response body"

namespace HttpPlatform

/-- The platform at an address. -/
def atAddress (base : Net.Url) : HttpPlatform := { folder := base.asFolder }

/-- The address of a path; slashes in front of it do not count. -/
def url (platform : HttpPlatform) (path : String) : Except PlatformError Net.Url :=
  let path := String.ofList (path.toList.dropWhile (· = '/'))
  match platform.folder.join? path with
  | some url => .ok url
  | none => .error (.transport ("invalid platform url: " ++ platform.pathFault path))

/-- A text without the slashes at its ends. -/
def trimSlashes (s : String) : String :=
  String.ofList ((s.toList.dropWhile (· = '/')).reverse.dropWhile (· = '/')).reverse

def commandUrl (platform : HttpPlatform) (command : Command) : Except PlatformError Net.Url :=
  platform.url (trimSlashes platform.commandFolder ++ "/" ++ Text.lowerAscii command.name)

def loginRequest (platform : HttpPlatform) (account : Account) (password : String) :
    Except PlatformError HttpRequest := do
  let url ← platform.url platform.loginPath
  return {
    url, tenant := account.tenant, bearer := none
    body := .ofMembers [("username", .string account.user), ("password", .string password)] }

def commandRequest (platform : HttpPlatform) (request : PlatformRequest) :
    Except PlatformError HttpRequest := do
  let url ← platform.commandUrl request.command
  return { url, tenant := request.tenant, bearer := some request.token, body := request.payload }

/-! Responses. -/

/-- Errors quote this many bytes of a body at most. -/
def maxDetail : Nat := 256

/-- The characters in the first bytes of a text; none when a character lies across the limit. -/
def cutAtByte? : Nat → List Char → Option (List Char)
  | _, [] => some []
  | 0, _ => some []
  | limit, c :: cs =>
    let size := c.utf8Size
    if size ≤ limit then (cutAtByte? (limit - size) cs).map (c :: ·) else none

/-- What an error quotes of the text of a body. -/
def detail? (text : String) : Option String :=
  (cutAtByte? maxDetail text.toList).map String.ofList

/-- A response, unless its status is an error. There is no answer at all when the text of an error
cannot be cut. -/
def checkStatus (response : HttpResponse) : Option (Except PlatformError HttpResponse) :=
  if 200 ≤ response.status && response.status ≤ 299 then some (.ok response)
  else if response.status = 401 || response.status = 403 then some (.error .unauthorized)
  else (detail? response.text).map fun detail => .error (.status response.status detail)

def readJson (platform : HttpPlatform) (response : HttpResponse) : Except PlatformError Json :=
  match (Text.decode? response.body).bind Json.read? with
  | some value => .ok value
  | none => .error (.decode (platform.bodyFault response.body))

def instant? (tree : Tree) : Option Time.Moment := tree.text?.bind Time.readInstant?

/-- What a login response says: the token, and its expirations where it has them. -/
def readGrant? (tree : Tree) : Option (String × Option Time.Moment × Option Time.Moment) := do
  let fields ← tree.fields? .refused
    ["accessToken", "accessTokenExpiration", "refreshTokenExpiration"]
  let token ← fields.required "accessToken" Tree.text?
  let access ← fields.optional "accessTokenExpiration" instant?
  let refresh ← fields.optional "refreshTokenExpiration" instant?
  return (token, access, refresh)

/-- The token of a login response; a blank one is none. -/
def readToken (platform : HttpPlatform) (now : Time.Moment) (response : HttpResponse) :
    Except PlatformError Token :=
  let tree := (Text.decode? response.body).bind fun text => Json.Reader.tree? text.toList
  match tree.bind readGrant? with
  | none => .error (.decode (platform.bodyFault response.body))
  | some (text, access, refresh) =>
    if Text.isBlankText text then
      .error (.decode "login answer carried an empty access token")
    else .ok {
      text
      access := access.getD (now + Time.Moment.ofSeconds platform.access)
      refresh := refresh.getD (now + Time.Moment.ofSeconds platform.refresh) }

/-! Calls. A call has no answer when its response has none. -/

def call {α : Type} (carrier : Carrier) (request : Except PlatformError HttpRequest)
    (read : HttpResponse → Except PlatformError α) : Option (Except PlatformError α) :=
  match request.bind carrier with
  | .error error => some (.error error)
  | .ok response => (checkStatus response).map fun checked => checked.bind read

def login (platform : HttpPlatform) (carrier : Carrier) (now : Time.Moment) (account : Account)
    (password : String) : Option (Except PlatformError Token) :=
  call carrier (platform.loginRequest account password) (platform.readToken now)

def execute (platform : HttpPlatform) (carrier : Carrier) (request : PlatformRequest) :
    Option (Except PlatformError Json) :=
  call carrier (platform.commandRequest request) platform.readJson

end HttpPlatform

end SelfCheck
