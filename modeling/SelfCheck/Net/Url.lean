import SelfCheck.Net.HostName

/-! Addresses of the web, in their normal form.

Reading brings scheme, host and port into one spelling, takes the dots out of the path and writes
every character that needs it in percent form.
-/

set_option autoImplicit false

namespace SelfCheck.Net

structure Authority where
  /-- User and password, in percent form. -/
  user : String := ""
  password : String := ""
  host : String
  /-- A port other than the scheme's own. -/
  port : Option Nat := none
  deriving DecidableEq, Repr

inductive Url.Path where
  | segments (parts : List String)
  /-- One piece of text without structure. -/
  | plain (text : String)
  deriving DecidableEq, Repr

structure Url where
  scheme : String
  authority : Option Authority
  path : Url.Path
  query : Option String := none
  fragment : Option String := none
  deriving DecidableEq, Repr

namespace Url

/-! Percent form. -/

def isControl (c : Char) : Bool := c.toNat < 0x20 || 0x7F ≤ c.toNat

def inFragment (c : Char) : Bool := isControl c || " \"<>`".toList.contains c

def inPath (c : Char) : Bool := inFragment c || "#?\x7b\x7d".toList.contains c

def inUser (c : Char) : Bool := inPath c || "/:;=@[\\]^|".toList.contains c

def inQuery (special : Bool) (c : Char) : Bool :=
  isControl c || " \"#<>".toList.contains c || (special && c = '\'')

def percentByte (b : UInt8) : List Char :=
  ['%', Text.upperHexDigit (b.toNat / 16), Text.upperHexDigit (b.toNat % 16)]

/-- A text with the characters of a class in percent form. -/
def percentEncode (needs : Char → Bool) (cs : List Char) : String :=
  String.ofList <| cs.flatMap fun c =>
    if needs c then (String.utf8EncodeChar c).flatMap percentByte else [c]

/-! Schemes. -/

/-- The port of a scheme with hosts; the file scheme has none. -/
def specialPort? (scheme : String) : Option (Option Nat) :=
  match scheme with
  | "http" | "ws" => some (some 80)
  | "https" | "wss" => some (some 443)
  | "ftp" => some (some 21)
  | "file" => some none
  | _ => none

def isSpecial (scheme : String) : Bool := (specialPort? scheme).isSome

def isSchemeChar (c : Char) : Bool := c.isAlphanum || c = '+' || c = '-' || c = '.'

/-- The scheme, and what stands behind its colon. -/
def scheme? (cs : List Char) : Option (String × List Char) :=
  match cs with
  | c :: _ =>
    if c.isAlpha then
      match cs.span isSchemeChar with
      | (scheme, ':' :: rest) => some (String.ofList (scheme.map Char.toLower), rest)
      | _ => none
    else none
  | [] => none

def isSlash (special : Bool) (c : Char) : Bool := c = '/' || (special && c = '\\')

/-! Authorities. -/

/-- A port behind the host; the scheme's own is left out. -/
def port? (scheme : String) (digits : List Char) : Option (Option Nat) :=
  if digits.isEmpty then some none
  else if digits.all Char.isDigit then
    let port := Text.decimalValue 0 digits
    if Text.maxPort < port then none
    else if (specialPort? scheme).join = some port then some none
    else some (some port)
  else none

/-- The host, and the colon behind it with all that follows; a colon between brackets is part of
the host. -/
def cutHost : (inBrackets : Bool) → List Char → List Char × List Char
  | _, [] => ([], [])
  | inBrackets, c :: rest =>
    if c = ':' && !inBrackets then ([], c :: rest)
    else
      let (host, behind) := cutHost (if c = '[' then true else if c = ']' then false else inBrackets) rest
      (c :: host, behind)

/-- Characters that no host may have whose scheme is not known. -/
def isForbiddenInAny (c : Char) : Bool := "\x00\t\n\r #/:<>?@[\\]^|".toList.contains c

def host? (scheme : String) (cs : List Char) : Option String :=
  if isSpecial scheme || cs.head? = some '[' then hostText? cs
  else if cs.any isForbiddenInAny then none
  else some (percentEncode isControl cs)

/-- A letter and a mark behind it, such as `C:`, are the name of a drive. -/
def isDrive (cs : List Char) : Bool :=
  match cs with
  | [letter, mark] => letter.isAlpha && (mark = ':' || mark = '|')
  | _ => false

/-- User and password in front of the last at sign, and what stands behind it. -/
def cutLogin (cs : List Char) : List Char × List Char × List Char :=
  match Text.cutAtLast? '@' cs with
  | none => ([], [], cs)
  | some (login, rest) =>
    let (user, password) := login.span (· ≠ ':')
    (user, password.drop 1, rest)

/-- An authority, and what stands behind its port. Only a scheme that is not known may go without a
host, and then there is no login and no port; a lone at sign stands for no login at the end of the
text only. -/
def authority? (scheme : String) (atEnd : Bool) (cs : List Char) :
    Option (Authority × List Char) := do
  if cs = ['@'] && !atEnd then none
  let (user, password, rest) := cutLogin cs
  let (hostPart, behind) := cutHost false rest
  let host ← host? scheme hostPart
  if hostPart.isEmpty && !(user ++ password ++ behind).isEmpty then none
  let (digits, behind) := (behind.drop 1).span (· ≠ '\\')
  let port ← port? scheme digits
  return ({ user := percentEncode inUser user, password := percentEncode inUser password, host, port },
    behind)

/-! Paths. -/

def isSingleDot (segment : List Char) : Bool :=
  [".", "%2e"].contains (Text.lowerAscii (String.ofList segment))

def isDoubleDot (segment : List Char) : Bool :=
  ["..", ".%2e", "%2e.", "%2e%2e"].contains (Text.lowerAscii (String.ofList segment))

/-- The pieces between slashes. -/
def pieces (special : Bool) (cs : List Char) : List (List Char) :=
  Text.splitAt '/' (cs.map fun c => if isSlash special c then '/' else c)

/-- The folder above; there is none above a drive. -/
def above (segments : List String) : List String :=
  if segments.getLast?.any fun last => isDrive last.toList then segments else segments.dropLast

/-- Segments with further ones behind them; dots lead to the folder itself or the one above. -/
def walk (segments : List String) : List (List Char) → List String
  | [] => segments
  | [last] =>
    if isDoubleDot last then above segments ++ [""]
    else if isSingleDot last then segments ++ [""]
    else segments ++ [percentEncode inPath last]
  | piece :: rest =>
    if isDoubleDot piece then walk (above segments) rest
    else if isSingleDot piece then walk segments rest
    else walk (segments ++ [percentEncode inPath piece]) rest

/-- What stands before a query or a fragment, the query and the fragment. -/
def tail (special : Bool) (cs : List Char) : List Char × Option String × Option String :=
  let (front, fragment) := cs.span (· ≠ '#')
  let (path, query) := front.span (· ≠ '?')
  let query := match query with
    | _ :: query => some (percentEncode (inQuery special) query)
    | [] => none
  let fragment := match fragment with
    | _ :: fragment => some (percentEncode inFragment fragment)
    | [] => none
  (path, query, fragment)

/-- The path behind an authority. -/
def pathBehind (special : Bool) (cs : List Char) : Path :=
  match cs with
  | [] => .segments (if special then [""] else [])
  | _ :: rest => .segments (walk [] (pieces special rest))

/-- An authority and all that stands behind it. A file has a host only, which may be missing, and a
drive there is part of the path. -/
def withAuthority? (scheme : String) (cs : List Char) : Option Url := do
  let special := isSpecial scheme
  let (front, query, fragment) := tail special cs
  let (text, path) := front.span fun c => !isSlash special c
  let url := fun authority path =>
    { scheme, authority := some authority, path := pathBehind special path, query, fragment : Url }
  if scheme = "file" then
    if isDrive text then some (url { host := "" } ('/' :: front))
    else
      let host ← if text.isEmpty then some "" else hostText? text
      some (url { host := if host = "localhost" then "" else host } path)
  else
    let atEnd := path.isEmpty && query.isNone && fragment.isNone
    let (authority, behind) ← authority? scheme atEnd text
    some (url authority (if behind.isEmpty then path else '/' :: behind ++ path))

/-- An address behind its scheme. -/
def absolute? (scheme : String) (cs : List Char) : Option Url :=
  let special := isSpecial scheme
  if scheme = "file" then
    match cs with
    | a :: b :: rest =>
      if isSlash true a && isSlash true b then withAuthority? scheme rest
      else withAuthority? scheme ('/' :: cs.dropWhile (isSlash true))
    | _ => withAuthority? scheme ('/' :: cs.dropWhile (isSlash true))
  else if special then withAuthority? scheme (cs.dropWhile (isSlash true))
  else match cs with
    | '/' :: '/' :: rest => withAuthority? scheme rest
    | '/' :: _ =>
      let (path, query, fragment) := tail special cs
      some { scheme, authority := none, path := pathBehind special path, query, fragment }
    | _ =>
      let (path, query, fragment) := tail special cs
      some { scheme, authority := none, path := .plain (percentEncode isControl path), query, fragment }

/-- A text without control characters and blanks at its ends, and without tabs and ends of lines. -/
def clean (text : String) : List Char :=
  let isEdge := fun (c : Char) => c.toNat ≤ 0x20
  let cs := ((text.toList.dropWhile isEdge).reverse.dropWhile isEdge).reverse
  cs.filter fun c => c ≠ '\t' && c ≠ '\n' && c ≠ '\r'

/-- The address that a text is. -/
def read? (text : String) : Option Url :=
  (scheme? (clean text)).bind fun (scheme, rest) => absolute? scheme rest

/-- The segments of a path, if it has structure. -/
def Path.segments? : Path → Option (List String)
  | .segments parts => some parts
  | .plain _ => none

/-- The address that a text without a scheme means from another address. -/
def relative? (base : Url) (cs : List Char) : Option Url :=
  let special := isSpecial base.scheme
  let (path, query, fragment) := tail special cs
  match base.path with
  | .plain _ =>
    match cs with
    | '#' :: _ => some { base with fragment }
    | _ => none
  | .segments parts =>
    match path with
    | [] => some { base with query := if query.isSome then query else base.query, fragment }
    | a :: rest =>
      if isSlash special a then
        match rest with
        | b :: _ =>
          if isSlash special b then withAuthority? base.scheme (cs.drop 2)
          else some { base with path := .segments (walk [] (pieces special rest)), query, fragment }
        | [] => some { base with path := .segments (walk [] (pieces special rest)), query, fragment }
      else
        some { base with path := .segments (walk parts.dropLast (pieces special path)), query, fragment }

/-- The address that a text means from another address. -/
def join? (base : Url) (text : String) : Option Url :=
  let cs := clean text
  match scheme? cs with
  | none => relative? base cs
  | some (scheme, rest) =>
    if isSpecial scheme && scheme = base.scheme && scheme ≠ "file" && (rest.take 1).all (· ≠ '/') then
      relative? base rest
    else absolute? scheme rest

/-! Writing. -/

def authorityText (authority : Authority) : String :=
  let password := if authority.password = "" then "" else ":" ++ authority.password
  let login := authority.user ++ password
  let port := match authority.port with
    | some port => ":" ++ toString port
    | none => ""
  (if login = "" then "" else login ++ "@") ++ authority.host ++ port

def pathText : Path → String
  | .segments parts => String.join (parts.map ("/" ++ ·))
  | .plain text => text

def text (url : Url) : String :=
  let authority := match url.authority with
    | some authority => "//" ++ authorityText authority
    | none => ""
  let query := (url.query.map ("?" ++ ·)).getD ""
  let fragment := (url.fragment.map ("#" ++ ·)).getD ""
  url.scheme ++ ":" ++ authority ++ pathText url.path ++ query ++ fragment

/-- The address of the same place as a folder: its path ends in a slash. -/
def asFolder (url : Url) : Url :=
  match url.path with
  | .plain text => { url with path := .plain (if text.endsWith "/" then text else text ++ "/") }
  | .segments parts =>
    if parts.getLast? = some "" then url else { url with path := .segments (parts ++ [""]) }

end Url

end SelfCheck.Net
