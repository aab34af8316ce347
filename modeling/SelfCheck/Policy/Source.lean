import SelfCheck.Config.Reader
import SelfCheck.Net.Url

/-! Where the policy document comes from, and the store that keeps the latest one. -/

set_option autoImplicit false

namespace SelfCheck

inductive PolicySource where
  | file (path : String)
  | web (url : Net.Url)
  deriving DecidableEq, Repr

inductive SourceError where
  | blank
  | badUrl (text : String)
  deriving DecidableEq, Repr

def SourceError.message : SourceError → String
  | blank => "tenant config source must be non-empty"
  | badUrl text => "parse tenant config url " ++ text

namespace PolicySource

/-- What begins like an address of the web is one; anything else is a path. -/
def read (raw : String) : Except SourceError PolicySource :=
  let text := Text.trim raw
  if text = "" then .error .blank
  else if text.startsWith "http://" || text.startsWith "https://" then
    match Net.Url.read? text with
    | some url => .ok (.web url)
    | none => .error (.badUrl text)
  else .ok (.file text)

/-- The name at the end of a path. -/
def fileName (path : String) : String :=
  let trimmed := (path.toList.reverse.dropWhile (· = '/'))
  String.ofList (trimmed.takeWhile (· ≠ '/')).reverse

/-- The part of a file's name behind its last dot, unless the name begins with that dot. -/
def extension? (path : String) : Option String :=
  match Text.cutAtLast? '.' (fileName path).toList with
  | some (_ :: _, behind) => some (String.ofList behind)
  | _ => none

def isToml (path : String) : Bool := (extension? path).any fun part => Text.lowerAscii part = "toml"

end PolicySource

/-- What is found where a file should be. -/
inductive FileContent where
  | missing
  | bytes (content : List UInt8)
  | unreadable
  deriving DecidableEq, Repr

inductive PullError where
  | unreadable (path : String)
  | badToml
  | badJson
  | unreachable (source : String)
  deriving DecidableEq, Repr

def PullError.message : PullError → String
  | unreadable path => "read tenant config " ++ path
  | badToml => "parse tenant config TOML"
  | badJson => "parse tenant config JSON"
  | unreachable source => "fetch tenant config from " ++ source

namespace Policy

def orElse (policy : Option Policy) (error : PullError) : Except PullError Policy :=
  match policy with
  | some policy => .ok policy
  | none => .error error

/-- The policy in a file; a missing file is the empty policy. -/
def pullFile (path : String) : FileContent → Except PullError Policy
  | .missing => .ok {}
  | .unreadable => .error (.unreadable path)
  | .bytes content =>
    match Text.decode? content with
    | none => .error (.unreadable path)
    | some text =>
      if PolicySource.isToml path then orElse (ofTomlText? text) .badToml
      else orElse (ofJsonText? text) .badJson

/-- The policy of a response, which is none when the server was not reached. A document that is not
found is the empty policy. -/
def pullWeb (source : String) : Option (Nat × List UInt8) → Except PullError Policy
  | none => .error (.unreachable source)
  | some (status, body) =>
    if status = 404 then .ok {}
    else if 400 ≤ status then .error (.unreachable source)
    else orElse (ofJsonText? (Text.decode body)) .badJson

end Policy

/-- The policy in force, and whether one has been loaded. -/
structure PolicyStore where
  policy : Policy := {}
  loaded : Bool := false
  deriving Repr

namespace PolicyStore

/-- Install what was pulled; after a failure the former policy stays. -/
def refresh (store : PolicyStore) : Except PullError Policy → PolicyStore
  | .ok policy => { policy, loaded := true }
  | .error _ => store

/-- Milliseconds between two refreshes; less than a second is a second. -/
def period (interval : Nat) : Nat := max interval 1000

/-- How many refreshes fall into the time after `earlier`, up to `later`; the first one comes a whole
period after the start. -/
def refreshesBetween (interval earlier later : Nat) : Nat :=
  later / period interval - earlier / period interval

end PolicyStore

end SelfCheck
