import SelfCheck.CommandLine

/-! The program.

It checks a gateway's command line, environment and configuration. Sockets are the business of the
program that embeds the gateway, so no address can be bound here.
-/

set_option autoImplicit false

namespace SelfCheck.CommandLine

/-- The variables that a configuration looks at. -/
def variableNames : List String :=
  ["SIP2_LISTEN", "SIP2_IDLE_TIMEOUT_SECS", "SIP2_UPSTREAM_TIMEOUT_SECS", "SIP2_MAX_FRAME_BYTES",
    "SIP2_METRICS_BIND", "SIP2_HEALTH_BIND", "SIP2_PLATFORM_BASE_URL",
    "SIP2_TOKEN_CACHE_CAPACITY", "SIP2_TENANTS_SOURCE", "SIP2_TENANTS_REFRESH_SECS",
    "SIP2_ERROR_DETECTION", "SIP2_CLOSE_ON_END_SESSION"]

def readEnvironment : IO Environment := do
  let values ← variableNames.mapM fun name => do
    return (← IO.getEnv name).map (name, ·)
  return values.filterMap id

def readContent (path : String) : IO FileContent := do
  try
    return .bytes (← IO.FS.readBinFile path).toList
  catch
    | .noFileOrDirectory .. => return .missing
    | _ => return .unreadable

/-- The path of the configuration that a command line names. -/
def configPath (arguments : List String) (home : String) : String :=
  match options arguments {} with
  | .ok options => options.config.getD (defaultConfigPath home)
  | .error _ => defaultConfigPath home

def program (arguments : List String) : IO UInt32 := do
  let environment ← readEnvironment
  let home := (← IO.getEnv "HOME").getD ""
  let content ← readContent (configPath arguments home)
  match (prepare arguments environment home fun _ => content).bind (bindAll fun _ => false) with
  | .ok _ => return 0
  | .error stop =>
    IO.eprint stop.text
    return stop.exitCode

end SelfCheck.CommandLine

def main (arguments : List String) : IO UInt32 := SelfCheck.CommandLine.program arguments
