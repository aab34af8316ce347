import SelfCheck.Json
import SelfCheck.Policy

/-! Policy data as JSON, under the names of the policy document. -/

set_option autoImplicit false

namespace SelfCheck

def Station.toJson (station : Station) : Json :=
  .ofMembers [
    ("retriesAllowed", .nat station.retriesAllowed.toNat),
    ("timeoutPeriod", .nat station.timeoutPeriod.toNat),
    ("checkinOk", .bool station.checkinOk),
    ("checkoutOk", .bool station.checkoutOk),
    ("acsRenewalPolicy", .bool station.acsRenewalPolicy),
    ("libraryName", .string station.libraryName),
    ("terminalLocation", .string station.terminalLocation)]

def WireSettings.toJson (settings : WireSettings) : Json :=
  .ofMembers [
    ("errorDetectionEnabled", .bool settings.errorDetection),
    ("fieldDelimiter", .string settings.fieldDelimiter.toString),
    ("messageDelimiter", .string settings.messageDelimiter.toString),
    ("closeOnEndSession", .bool settings.closeOnEndSession)]

/-- The policy as it is understood: supported commands are listed by name. -/
def AcsPolicy.toJson (policy : AcsPolicy) : Json :=
  .ofMembers [
    ("statusUpdateOk", .bool policy.statusUpdateOk),
    ("offlineOk", .bool policy.offlineOk),
    ("alwaysCheckPatronPassword", .bool policy.alwaysCheckPatronPassword),
    ("usePinForPatronVerification", .bool policy.usePinForPatronVerification),
    ("patronPasswordVerificationRequired", .bool policy.patronPasswordVerificationRequired),
    ("invalidCheckinStatuses", .array (policy.invalidCheckinStatuses.map .string)),
    ("supportedMessages", .array (policy.supported.map (.string ·.name)))]

def Profile.toJson (profile : Profile) : Json :=
  .ofMembers [
    ("acs", profile.acs.toJson),
    ("station", .ofOption (profile.station.map Station.toJson)),
    ("session", profile.session.toJson)]

end SelfCheck
