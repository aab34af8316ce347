import SelfCheck.Proofs.Template
import SelfCheck.Answer

/-! What a status answer says: the commands that a terminal may use, and how this reads. -/

set_option autoImplicit false

namespace SelfCheck.Answer

/-- An answer advertises a command when its flag is set, and so is the switch of the station for a
command that has one. -/
structure Advertises (answer : Json) (command : Command) : Prop where
  flagged : ∃ flags, answer.member? "supported_messages" = some (.string flags) ∧
    flags.toList[AcsPolicy.flagOrder.idxOf command]? = some 'Y'
  checkin : command = .checkin → answer.member? "checkin_ok" = some (.bool true)
  checkout : command = .checkout → answer.member? "checkout_ok" = some (.bool true)

/-- Each command has its flag at its place. -/
theorem flags_getElem? (acs : AcsPolicy) (command : Command) :
    acs.flags.toList[AcsPolicy.flagOrder.idxOf command]? = some (acs.flag command) := by
  rw [AcsPolicy.flags, String.toList_ofList]
  cases command <;> rfl

theorem flag_eq_iff (acs : AcsPolicy) (command : Command) :
    acs.flag command = 'Y' ↔ command.isSessionControl = true ∨ acs.supports command = true := by
  rw [← Bool.or_eq_true]
  unfold AcsPolicy.flag
  split
  · next set => simp [set]
  · next unset => simp [unset]

section

variable (tenant : TenantId) (acs : AcsPolicy) (station : Station) (now : Time.Moment)

/-- The members of a status answer, in the order of their keys. -/
theorem status_eq :
    status tenant acs station now = .object [
      ("acs_renewal_policy", .bool station.acsRenewalPolicy),
      ("checkin_ok", .bool station.checkinOk),
      ("checkout_ok", .bool station.checkoutOk),
      ("date_time_sync", .string (Time.stamp now)),
      ("institution_id", .string tenant.text),
      ("library_name", .string station.libraryName),
      ("offline_ok", .bool acs.offlineOk),
      ("online_status", .bool true),
      ("protocol_version", .string "2.00"),
      ("retries_allowed", .nat station.retriesAllowed.toNat),
      ("status_update_ok", .bool acs.statusUpdateOk),
      ("supported_messages", .string acs.flags),
      ("terminal_location", .string station.terminalLocation),
      ("timeout_period", .nat station.timeoutPeriod.toNat)] := rfl

theorem status_flags :
    (status tenant acs station now).member? "supported_messages" = some (.string acs.flags) := by
  rw [status_eq]
  rfl

theorem status_checkin :
    (status tenant acs station now).member? "checkin_ok" = some (.bool station.checkinOk) := by
  rw [status_eq]
  rfl

theorem status_checkout :
    (status tenant acs station now).member? "checkout_ok" = some (.bool station.checkoutOk) := by
  rw [status_eq]
  rfl

/-- A status answer advertises session control, and what the library supports and the station does
not switch off. -/
theorem status_advertises_iff (command : Command) :
    Advertises (status tenant acs station now) command ↔
      (command.isSessionControl = true ∨ acs.supports command = true) ∧
        (command = .checkin → station.checkinOk = true) ∧
        (command = .checkout → station.checkoutOk = true) := by
  have flagged : (∃ flags, (status tenant acs station now).member? "supported_messages" =
        some (.string flags) ∧ flags.toList[AcsPolicy.flagOrder.idxOf command]? = some 'Y') ↔
      command.isSessionControl = true ∨ acs.supports command = true := by
    rw [status_flags, ← flag_eq_iff]
    simp [flags_getElem?]
  constructor
  · rintro ⟨flag, checkin, checkout⟩
    refine ⟨flagged.mp flag, fun own => ?_, fun own => ?_⟩
    · simpa [status_checkin] using checkin own
    · simpa [status_checkout] using checkout own
  · rintro ⟨flag, checkin, checkout⟩
    refine ⟨flagged.mpr flag, fun own => ?_, fun own => ?_⟩
    · rw [status_checkin, checkin own]
    · rw [status_checkout, checkout own]

/-- How a status answer reads with the bundled template. -/
def statusText : String :=
  let letter := Template.truthText false
  let threeDigits (n : UInt16) := Text.padStart 3 '0' (Json.Number.whole n.toNat).text
  "98" ++ letter true ++ letter station.checkinOk ++ letter station.checkoutOk ++
    letter station.acsRenewalPolicy ++ letter acs.statusUpdateOk ++ letter acs.offlineOk ++
    threeDigits station.timeoutPeriod ++ threeDigits station.retriesAllowed ++
    Time.stamp now ++ "2.00" ++
    "AO" ++ tenant.text ++ "|" ++ "AM" ++ station.libraryName ++ "|" ++
    "BX" ++ acs.flags ++ "|" ++ "AN" ++ station.terminalLocation ++ "|"

/-- The values in a status answer, as its template looks them up. -/
theorem lookup_status :
    let look := Template.lookup [status tenant acs station now]
    look "online_status" = some (.bool true) ∧
      look "checkin_ok" = some (.bool station.checkinOk) ∧
      look "checkout_ok" = some (.bool station.checkoutOk) ∧
      look "acs_renewal_policy" = some (.bool station.acsRenewalPolicy) ∧
      look "status_update_ok" = some (.bool acs.statusUpdateOk) ∧
      look "offline_ok" = some (.bool acs.offlineOk) ∧
      look "timeout_period" = some (.nat station.timeoutPeriod.toNat) ∧
      look "retries_allowed" = some (.nat station.retriesAllowed.toNat) ∧
      look "date_time_sync" = some (.string (Time.stamp now)) ∧
      look "protocol_version" = some (.string "2.00") ∧
      look "institution_id" = some (.string tenant.text) ∧
      look "library_name" = some (.string station.libraryName) ∧
      look "supported_messages" = some (.string acs.flags) ∧
      look "terminal_location" = some (.string station.terminalLocation) ∧
      look "screen_message" = none ∧ look "print_line" = none := by
  intro look
  unfold look
  rw [status_eq]
  exact ⟨rfl, rfl, rfl, rfl, rfl, rfl, rfl, rfl, rfl, rfl, rfl, rfl, rfl, rfl, rfl, rfl⟩

theorem render_status :
    Templates.bundled.render .scStatus (status tenant acs station now) =
      .ok (statusText tenant acs station now) := by
  have template : Templates.bundled.template? .scStatus = some Templates.scStatus := rfl
  rw [Templates.render, template]
  simp only [Template.render, Templates.scStatus, Templates.institution, Templates.field,
    Templates.closingFields, Templates.maybe, Templates.place, Templates.sized,
    Template.renderNodes, Template.renderNode, lookup_status tenant acs station now,
    Template.valueText, Template.fit, Template.isTruthy, Json.nat, List.cons_append,
    List.nil_append, Bool.false_eq_true, if_false, String.append_empty]
  -- A template is put together from its end, this text from its beginning.
  apply congrArg Except.ok
  unfold statusText
  simp only [String.append_assoc]

end

end SelfCheck.Answer
