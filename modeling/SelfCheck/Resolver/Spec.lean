import SelfCheck.Resolver
import SelfCheck.Sorted
import SelfCheck.Text.Quoted
import SelfCheck.Tree.Fields

/-! Resolvers as configurations write them.

A specification keeps its texts as written. It is checked when resolvers are built from it.
-/

set_option autoImplicit false

namespace SelfCheck

/-- Tables are in the order of their keys. -/
inductive ResolverSpec where
  | port (ports : List (String × String))
  | subnet (networks : List (String × String))
  | usernameStart (separator : String) (allowed : List String)
  | locationCode (codes : List (String × String))
  | always (tenant : String) (phase : Phase)
  deriving DecidableEq, Repr

inductive ResolverError where
  | badPort (text : String)
  | badNetwork (cause : Net.NetworkError)
  | badTenant (text : String) (cause : NameError)
  deriving DecidableEq, Repr

def ResolverError.message : ResolverError → String
  | badPort text => "invalid resolver port " ++ Text.quoted text
  | badNetwork cause => cause.message
  | badTenant text cause => "invalid tenant id " ++ Text.quoted text ++ ": " ++ cause.message

namespace ResolverSpec

/-! Reading. The kind stands under its own name in a record, or first in a list. -/

open SelfCheck.Tree

def phase? : Tree → Option Phase
  | .text name => named name
  | .record [(name, .null)] => named name
  | .record [(name, .record [])] => named name
  | _ => none
where
  named (name : String) : Option Phase := [Phase.connect, .login].find? (·.name = name)

def table? (tree : Tree) : Option (List (String × String)) := (tree.recordOf text?).map Sorted.ofList

/-- The kind and what is left for its members. -/
def kind? : Tree → Option (String × Tree)
  | .record members =>
    match members.filter (·.1 = "kind") with
    | [(_, .text kind)] => some (kind, .record (members.filter (·.1 ≠ "kind")))
    | _ => none
  | .list (.text kind :: rest) => some (kind, .list rest)
  | _ => none

def ofTree? (tree : Tree) : Option ResolverSpec := do
  if !tree.allLeaves fun leaf => !leaf.isBroken && leaf.fitsWord then none
  let (kind, rest) ← kind? tree
  match kind with
  | "port" =>
    let fields ← rest.fields? .refused ["ports"]
    return .port (← fields.required "ports" table?)
  | "subnet" =>
    let fields ← rest.fields? .refused ["networks"]
    return .subnet (← fields.required "networks" table?)
  | "username_prefix" =>
    let fields ← rest.fields? .refused ["separator", "allowed"]
    let separator ← fields.withDefault "separator" text? "/"
    let allowed ← fields.withDefault "allowed" (listOf text?) []
    return .usernameStart separator allowed
  | "location_code" =>
    let fields ← rest.fields? .refused ["codes"]
    return .locationCode (← fields.required "codes" table?)
  | "default" =>
    let fields ← rest.fields? .refused ["tenant", "phase"]
    let tenant ← fields.required "tenant" text?
    let phase ← fields.withDefault "phase" phase? .connect
    return .always tenant phase
  | _ => none

/-! Building. -/

def tenant (raw : String) : Except ResolverError TenantId :=
  (TenantId.of raw).mapError (.badTenant raw)

def portEntry (entry : String × String) : Except ResolverError (Nat × TenantId) := do
  match Text.readBounded? Text.maxPort (Text.trimChars entry.1.toList) with
  | none => .error (.badPort entry.1)
  | some number => return (number, ← tenant entry.2)

def networkEntry (entry : String × String) : Except ResolverError (Net.Network × TenantId) := do
  let network ← (Net.Network.read entry.1).mapError .badNetwork
  return (network, ← tenant entry.2)

def codeEntry (entry : String × String) : Except ResolverError (String × TenantId) := do
  return (Text.trim entry.1, ← tenant entry.2)

/-- Networks that share more bits come first; others keep their order. -/
def bySharedBits (networks : List (Net.Network × TenantId)) : List (Net.Network × TenantId) :=
  networks.mergeSort fun a b => b.1.shared ≤ a.1.shared

def build : ResolverSpec → Except ResolverError Resolver
  | .port ports => do return .port (Sorted.ofList (← ports.mapM portEntry))
  | .subnet networks => do return .subnet (bySharedBits (← networks.mapM networkEntry))
  | .usernameStart separator allowed => do return .usernameStart separator (← allowed.mapM tenant)
  | .locationCode codes => do return .locationCode (Sorted.ofList (← codes.mapM codeEntry))
  | .always raw phase => do return .always phase (← tenant raw)

/-- The resolvers of specifications, in their order; the first error counts. -/
def buildAll (specs : List ResolverSpec) : Except ResolverError Resolvers := specs.mapM build

end ResolverSpec

end SelfCheck
