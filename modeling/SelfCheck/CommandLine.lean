import SelfCheck.Config.Environment
import SelfCheck.Net.Listen
import SelfCheck.Policy.Source

/-! The command line of a gateway, up to the point where it serves terminals. -/

set_option autoImplicit false

namespace SelfCheck.CommandLine

structure Options where
  /-- Places to listen at, which replace those of the configuration. -/
  listen : List String := []
  config : Option String := none
  deriving DecidableEq, Repr

/-- Why a gateway does not serve. -/
inductive Stop where
  /-- The command line is wrong; there may be something to say before the usage. -/
  | usage (complaint : Option String)
  | badConfig (path : String)
  | noBaseUrl
  | badBaseUrl (text : String)
  | badSource (error : SourceError)
  | badResolvers (error : ResolverError)
  | notBound (address : Net.SocketAddress)
  deriving DecidableEq, Repr

def usageText : String :=
  "Usage: sip2_gateway [--listen tcp://host:port]... [--config PATH]\n\nOptions:\n" ++
    "\t--listen  Listen endpoint, repeatable (default: from config, else tcp://0.0.0.0:6443)\n" ++
    "\t         Format: tcp://host:port\n" ++
    "\t--config  Config file (default: ~/.sip2-gateway/config.toml)\n" ++
    "\t--help    Show this help\n\n"

/-- What is written when a gateway does not serve. -/
def Stop.text : Stop → String
  | usage none => usageText
  | usage (some complaint) => complaint ++ "\n" ++ usageText
  | badConfig path => "Error: read config from " ++ path ++ "\n"
  | noBaseUrl => "Error: platform.base_url is required (or SIP2_PLATFORM_BASE_URL)\n"
  | badBaseUrl text => "Error: invalid platform base_url " ++ Text.quoted text ++ "\n"
  | badSource error => "Error: " ++ error.message ++ "\n"
  | badResolvers _ => "Error: build tenant resolvers\n"
  | notBound address => "Error: bind sip2 listener on " ++ address.text ++ "\n"

def Stop.exitCode : Stop → UInt32
  | usage _ => 2
  | _ => 1

def options (arguments : List String) (done : Options) : Except Stop Options :=
  match arguments with
  | [] => .ok done
  | argument :: rest =>
    if argument = "--help" || argument = "-h" then .error (.usage none)
    else if argument = "--listen" || argument = "--bind" then
      match rest with
      | [] => .error (.usage none)
      | place :: rest =>
        if Text.isBlankText place then
          .error (.usage (some "--listen must be non-empty (expected tcp://host:port)"))
        else options rest { done with listen := done.listen ++ [place] }
    else if argument = "--config" then
      match rest with
      | [] => .error (.usage none)
      | path :: rest => options rest { done with config := some path }
    else .error (.usage (some ("Unknown argument: " ++ argument)))

def defaultConfigPath (home : String) : String := home ++ "/.sip2-gateway/config.toml"

/-- The addresses of places to listen at; the first place that is none stops the gateway. -/
def addresses (places : List String) : Except Stop (List Net.SocketAddress) :=
  places.mapM fun place =>
    (Net.readListen place).mapError fun error => .usage (some error.message)

/-- Everything a gateway needs before it listens. -/
structure Launch where
  config : Config
  addresses : List Net.SocketAddress
  baseUrl : Net.Url
  source : Option PolicySource
  resolvers : Resolvers

def content? : FileContent → Option (Option (List UInt8))
  | .missing => some none
  | .bytes content => some (some content)
  | .unreadable => none

/-- Prepare a gateway from its command line, its environment and the files it finds. -/
def prepare (arguments : List String) (environment : Environment) (home : String)
    (file : String → FileContent) : Except Stop Launch := do
  let options ← options arguments {}
  let path := options.config.getD (defaultConfigPath home)
  let some config := (content? (file path)).bind Config.ofFile? | .error (.badConfig path)
  let config := config.override environment
  let config := if options.listen = [] then config else { config with listen := options.listen }
  let addresses ← addresses config.listen
  let some baseText := config.baseUrl | .error .noBaseUrl
  let some baseUrl := Net.Url.read? baseText | .error (.badBaseUrl baseText)
  let source ← match config.policySource with
    | none => pure none
    | some raw => (PolicySource.read raw).mapError .badSource |>.map some
  let resolvers ← (ResolverSpec.buildAll config.resolvers).mapError .badResolvers
  return { config, addresses, baseUrl, source, resolvers }

/-- Bind all addresses, or stop at the first one that cannot be bound. -/
def bindAll (canBind : Net.SocketAddress → Bool) (launch : Launch) : Except Stop Launch :=
  match launch.addresses.find? fun address => !canBind address with
  | some address => .error (.notBound address)
  | none => .ok launch

end SelfCheck.CommandLine
