import SelfCheck.Json
import SelfCheck.Message
import SelfCheck.Policy
import SelfCheck.Time.Stamp

/-! The models that answer bodies are rendered with. -/

set_option autoImplicit false

namespace SelfCheck.Answer

open Json

def flag (ok : Bool) : Json := ofMembers [("ok", .bool ok)]

/-- The answer to a status request. -/
def status (tenant : TenantId) (acs : AcsPolicy) (station : Station) (now : Time.Moment) : Json :=
  ofMembers [
    ("online_status", .bool true),
    ("checkin_ok", .bool station.checkinOk),
    ("checkout_ok", .bool station.checkoutOk),
    ("acs_renewal_policy", .bool station.acsRenewalPolicy),
    ("status_update_ok", .bool acs.statusUpdateOk),
    ("offline_ok", .bool acs.offlineOk),
    ("timeout_period", nat station.timeoutPeriod.toNat),
    ("retries_allowed", nat station.retriesAllowed.toNat),
    ("date_time_sync", .string (Time.stamp now)),
    ("protocol_version", .string "2.00"),
    ("institution_id", .string tenant.text),
    ("library_name", .string station.libraryName),
    ("supported_messages", .string acs.flags),
    ("terminal_location", .string station.terminalLocation)]

/-- What every answer says unless the platform says otherwise. -/
def common (message : Message) (now : Time.Moment) : List (String × Json) :=
  [("ok", .bool false),
    ("transaction_date", .string (Time.stamp now)),
    ("institution_id", .string ((message.field? "AO").getD "")),
    ("language", .string ((message.fixed? "language").getD "000")),
    ("patron_status", .string (Text.padEnd 14 "")),
    ("personal_name", .string ""),
    ("title_identifier", .string ""),
    ("due_date", .string ""),
    ("permanent_location", .string "")]

/-- The patron and the item that a request names. -/
def subject (message : Message) : List (String × Json) :=
  ((message.field? "AA").map fun patron => ("patron_identifier", Json.string patron)).toList ++
    ((message.field? "AB").map fun item => ("item_identifier", Json.string item)).toList

/-- What the answer to one command says besides. -/
def particular : Command → List (String × Json)
  | .checkout | .renew =>
    [("renewal_ok", .bool false), ("magnetic_media", .string "U"), ("desensitize", .string "U")]
  | .checkin =>
    [("resensitize", .string "U"), ("magnetic_media", .string "U"), ("alert", .bool false)]
  | .patronInformation =>
    ["hold_items_count", "overdue_items_count", "charged_items_count", "fine_items_count",
      "recall_items_count", "unavailable_holds_count"].map (·, nat 0)
  | .endPatronSession => [("end_session", .bool true)]
  | .feePaid => [("payment_accepted", .bool false)]
  | .hold => [("available", .bool false)]
  | .itemInformation =>
    [("circulation_status", .string "01"), ("security_marker", .string "00"),
      ("fee_type", .string "01")]
  | .itemStatusUpdate => [("item_properties_ok", .bool false)]
  | .renewAll => [("renewed_count", nat 0), ("unrenewed_count", nat 0)]
  | _ => []

/-- What the platform answered, as members; an answer that is no object is the result. -/
def given : Json → List (String × Json)
  | .object members => members
  | .null => []
  | other => [("result", other)]

/-- The platform's answer to a command, completed from the request. -/
def complete (command : Command) (message : Message) (now : Time.Moment) (answer : Json) : Json :=
  ofMembers (common message now ++ subject message ++ particular command ++ given answer)

end SelfCheck.Answer
