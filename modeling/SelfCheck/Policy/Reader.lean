import SelfCheck.Json.Reader
import SelfCheck.Policy
import SelfCheck.Tree.Fields

/-! Policy documents.

Every member has a default; the same document may be written in any format that gives a tree.
-/

set_option autoImplicit false

namespace SelfCheck

open SelfCheck.Tree

def flagPair? (surplus : Surplus) (tree : Tree) : Option (String × String) := do
  let fields ← tree.fields? surplus ["messageName", "isSupported"]
  let name ← fields.required "messageName" text?
  let flag ← fields.required "isSupported" text?
  return (name, flag)

def AcsPolicy.ofTree? (surplus : Surplus) (tree : Tree) : Option AcsPolicy := do
  let fields ← tree.fields? surplus
    ["statusUpdateOk", "offlineOk", "alwaysCheckPatronPassword", "usePinForPatronVerification",
      "patronPasswordVerificationRequired", "invalidCheckinStatuses", "supportedMessages"]
  let statusUpdateOk ← fields.withDefault "statusUpdateOk" bool? false
  let offlineOk ← fields.withDefault "offlineOk" bool? false
  let alwaysCheckPatronPassword ← fields.withDefault "alwaysCheckPatronPassword" bool? false
  let usePinForPatronVerification ← fields.withDefault "usePinForPatronVerification" bool? false
  let patronPasswordVerificationRequired ←
    fields.withDefault "patronPasswordVerificationRequired" bool? false
  let statuses ← fields.withDefault "invalidCheckinStatuses" (nullable text?) none
  let flags ← fields.withDefault "supportedMessages" (nullable (listOf (flagPair? surplus))) none
  return {
    statusUpdateOk, offlineOk, alwaysCheckPatronPassword, usePinForPatronVerification,
    patronPasswordVerificationRequired
    invalidCheckinStatuses := (statuses.map Text.commaItems).getD []
    supported := (flags.map Policy.supportedCommands).getD [] }

def word16? (tree : Tree) : Option UInt16 := (tree.nat? 0xFFFF).map UInt16.ofNat

def Station.ofTree? (surplus : Surplus) (tree : Tree) : Option Station := do
  let default : Station := {}
  let fields ← tree.fields? surplus
    ["retriesAllowed", "timeoutPeriod", "checkinOk", "checkoutOk", "acsRenewalPolicy",
      "libraryName", "terminalLocation"]
  let retriesAllowed ← fields.withDefault "retriesAllowed" word16? default.retriesAllowed
  let timeoutPeriod ← fields.withDefault "timeoutPeriod" word16? default.timeoutPeriod
  let checkinOk ← fields.withDefault "checkinOk" bool? default.checkinOk
  let checkoutOk ← fields.withDefault "checkoutOk" bool? default.checkoutOk
  let acsRenewalPolicy ← fields.withDefault "acsRenewalPolicy" bool? default.acsRenewalPolicy
  let libraryName ← fields.withDefault "libraryName" text? default.libraryName
  let terminalLocation ← fields.withDefault "terminalLocation" text? default.terminalLocation
  return {
    retriesAllowed, timeoutPeriod, checkinOk, checkoutOk, acsRenewalPolicy, libraryName,
    terminalLocation }

def WireSettings.ofTree? (surplus : Surplus) (tree : Tree) : Option WireSettings := do
  let default : WireSettings := {}
  let fields ← tree.fields? surplus
    ["errorDetectionEnabled", "fieldDelimiter", "messageDelimiter", "closeOnEndSession"]
  let errorDetection ← fields.withDefault "errorDetectionEnabled" bool? default.errorDetection
  let fieldDelimiter ← fields.withDefault "fieldDelimiter" char? default.fieldDelimiter
  let messageDelimiter ← fields.withDefault "messageDelimiter" char? default.messageDelimiter
  let closeOnEndSession ← fields.withDefault "closeOnEndSession" bool? default.closeOnEndSession
  return { errorDetection, fieldDelimiter, messageDelimiter, closeOnEndSession }

def Profile.ofTree? (surplus : Surplus) (tree : Tree) : Option Profile := do
  let fields ← tree.fields? surplus ["acs", "station", "session"]
  let acs ← fields.withDefault "acs" (AcsPolicy.ofTree? surplus) {}
  let station ← fields.withDefault "station" (nullable (Station.ofTree? surplus)) none
  let session ← fields.withDefault "session" (WireSettings.ofTree? surplus) {}
  return { acs, station, session }

namespace Policy

/-- The profiles by name. Of names that differ only in the space around them the last counts. -/
def tenantsOfTree? (surplus : Surplus) (tree : Tree) : Option (List (TenantId × Profile)) := do
  let named ← tree.recordOf (Profile.ofTree? surplus)
  let profiles ← named.mapM fun (name, profile) => (TenantId.of? name).map (·, profile)
  return Sorted.ofList profiles

def ofTree? (surplus : Surplus) (tree : Tree) : Option Policy := do
  let fields ← tree.fields? surplus ["tenants"]
  let tenants ← fields.withDefault "tenants" (tenantsOfTree? surplus) []
  return { tenants }

/-- The policy of a JSON document; a blank one is the empty policy. -/
def ofJsonText? (text : String) : Option Policy :=
  if Text.isBlankText text then some {}
  else (Json.Reader.tree? text.toList).bind (ofTree? .refused)

end Policy

end SelfCheck
