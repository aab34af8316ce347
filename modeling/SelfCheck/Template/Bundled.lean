import SelfCheck.Template.Reader

/-! The templates of a gateway, and the ones it has when nobody gives others. -/

set_option autoImplicit false

namespace SelfCheck

/-- A template for each command that is answered by one, and one for failures. -/
structure Templates where
  commands : List (Command × Template)
  failure : Template
  deriving Repr, Inhabited

namespace Templates

/-- The name of a command's template in error messages. -/
def fileName (command : Command) : String := Text.lowerAscii command.name ++ ".sip"

def failureName : String := "failure.sip"

def template? (templates : Templates) (command : Command) : Option Template :=
  templates.commands.lookup command

def readNamed (name source : String) : Except RenderError Template :=
  (Template.read source).mapError (.template name)

/-- Templates from their sources; of several faults the first one counts. -/
def ofSources (commands : List (Command × String)) (failure : String) :
    Except RenderError Templates := do
  let commands ← commands.mapM fun (command, source) => do
    let template ← readNamed (fileName command) source
    return (command, template)
  let failure ← readNamed failureName failure
  return { commands, failure }

def render (templates : Templates) (command : Command) (model : Json) :
    Except RenderError String :=
  match templates.template? command with
  | some template => template.render model
  | none => .error (.noTemplate command)

/-- What a failure answer is rendered with. -/
def failureModel (code message : String) : Json :=
  .object [("code", .string code), ("message", .string message)]

/-- The code of the answer: the command's, or else that of the request. -/
def answerCode (command : Option Command) (requestCode : String) : String :=
  (command.bind Command.responseCode?).getD requestCode

def renderFailure (templates : Templates) (command : Option Command) (requestCode message : String) :
    Except RenderError String :=
  templates.failure.render (failureModel (answerCode command requestCode) message)

/-! The bundled templates. -/

open Template

def place (path : String) : Node := .value path none false

def sized (path : String) (width : Nat) : Node := .value path (some width) false

def digit (path : String) : Node := .value path none true

/-- A tag, a value and the field delimiter. -/
def field (tag path : String) : List Node := [.text tag, place path, .text "|"]

/-- A field that is left out when its value is empty. -/
def maybe (tag path : String) : List Node := [.block path false (field tag path)]

/-- A field for each item of an array. -/
def each (tag path : String) : List Node := [.block path true (field tag ".")]

def closingFields : List Node := maybe "AF" "screen_message" ++ maybe "AG" "print_line"

def statusHead (code : String) : List Node :=
  [.text code, sized "patron_status" 14, sized "language" 3, place "transaction_date"]

def institution : List Node := field "AO" "institution_id"

def patron : List Node := field "AA" "patron_identifier"

def patronFields : List Node :=
  institution ++ patron ++ field "AE" "personal_name" ++ maybe "BL" "valid_patron" ++
    maybe "CQ" "valid_patron_password"

def feeFields : List Node := maybe "BH" "currency_type" ++ maybe "BV" "fee_amount"

/-- Patron status, which also answers a blocked card. -/
def patronStatus : Template :=
  ⟨statusHead "24" ++ patronFields ++ feeFields ++ closingFields⟩

def checkin : Template :=
  ⟨[.text "10", digit "ok", place "resensitize", place "magnetic_media", place "alert",
      place "transaction_date"] ++
    institution ++ field "AB" "item_identifier" ++ field "AQ" "permanent_location" ++
    maybe "AJ" "title_identifier" ++ maybe "CL" "sort_bin" ++ maybe "AA" "patron_identifier" ++
    maybe "CK" "media_type" ++ maybe "CH" "item_properties" ++ closingFields⟩

/-- An item lent, for the first time or again. -/
def loan (code : String) : Template :=
  ⟨[.text code, digit "ok", place "renewal_ok", place "magnetic_media", place "desensitize",
      place "transaction_date"] ++
    institution ++ patron ++ field "AB" "item_identifier" ++ field "AJ" "title_identifier" ++
    field "AH" "due_date" ++ maybe "BT" "fee_type" ++ maybe "CI" "security_inhibit" ++ feeFields ++
    maybe "CK" "media_type" ++ maybe "CH" "item_properties" ++ maybe "BK" "transaction_id" ++
    closingFields⟩

def endPatronSession : Template :=
  ⟨[.text "36", place "end_session", place "transaction_date"] ++ institution ++ patron ++
    closingFields⟩

def feePaid : Template :=
  ⟨[.text "38", place "payment_accepted", place "transaction_date"] ++ institution ++ patron ++
    maybe "BK" "transaction_id" ++ closingFields⟩

def hold : Template :=
  ⟨[.text "16", digit "ok", place "available", place "transaction_date"] ++
    maybe "BW" "expiration_date" ++ maybe "BR" "queue_position" ++ maybe "BS" "pickup_location" ++
    institution ++ patron ++ maybe "AB" "item_identifier" ++ maybe "AJ" "title_identifier" ++
    closingFields⟩

def itemInformation : Template :=
  ⟨[.text "18", sized "circulation_status" 2, sized "security_marker" 2, sized "fee_type" 2,
      place "transaction_date"] ++
    maybe "CF" "hold_queue_length" ++ maybe "AH" "due_date" ++ maybe "CJ" "recall_date" ++
    maybe "CM" "hold_pickup_date" ++ field "AB" "item_identifier" ++
    field "AJ" "title_identifier" ++ maybe "BG" "owner" ++ feeFields ++ maybe "CK" "media_type" ++
    maybe "AQ" "permanent_location" ++ maybe "AP" "current_location" ++
    maybe "CH" "item_properties" ++ closingFields⟩

def itemStatusUpdate : Template :=
  ⟨[.text "20", digit "item_properties_ok", place "transaction_date"] ++
    field "AB" "item_identifier" ++ maybe "AJ" "title_identifier" ++ maybe "CH" "item_properties" ++
    closingFields⟩

def login : Template := ⟨[.text "94", digit "ok"]⟩

def patronEnable : Template := ⟨statusHead "26" ++ patronFields ++ closingFields⟩

def patronInformation : Template :=
  ⟨statusHead "64" ++
    [sized "hold_items_count" 4, sized "overdue_items_count" 4, sized "charged_items_count" 4,
      sized "fine_items_count" 4, sized "recall_items_count" 4, sized "unavailable_holds_count" 4] ++
    patronFields ++ feeFields ++ maybe "CC" "fee_limit" ++ each "AS" "hold_items" ++
    each "AT" "overdue_items" ++ each "AU" "charged_items" ++ each "AV" "fine_items" ++
    each "BU" "recall_items" ++ each "CD" "unavailable_hold_items" ++ maybe "BD" "home_address" ++
    maybe "BE" "email_address" ++ maybe "BF" "home_phone_number" ++ closingFields⟩

def renewAll : Template :=
  ⟨[.text "66", digit "ok", sized "renewed_count" 4, sized "unrenewed_count" 4,
      place "transaction_date"] ++
    institution ++ each "BM" "renewed_items" ++ each "BN" "unrenewed_items" ++ closingFields⟩

def scStatus : Template :=
  ⟨[.text "98", place "online_status", place "checkin_ok", place "checkout_ok",
      place "acs_renewal_policy", place "status_update_ok", place "offline_ok",
      sized "timeout_period" 3, sized "retries_allowed" 3, place "date_time_sync",
      place "protocol_version"] ++
    institution ++ field "AM" "library_name" ++ field "BX" "supported_messages" ++
    field "AN" "terminal_location" ++ closingFields⟩

def failureTemplate : Template :=
  ⟨[place "code", .text "AF", place "message", .text "|"]⟩

def bundledTemplate? : Command → Option Template
  | .blockPatron | .patronStatusRequest => some patronStatus
  | .checkin => some checkin
  | .checkout => some (loan "12")
  | .endPatronSession => some endPatronSession
  | .feePaid => some feePaid
  | .hold => some hold
  | .itemInformation => some itemInformation
  | .itemStatusUpdate => some itemStatusUpdate
  | .login => some login
  | .patronEnable => some patronEnable
  | .patronInformation => some patronInformation
  | .renew => some (loan "30")
  | .renewAll => some renewAll
  | .requestAcsResend => none
  | .scStatus => some scStatus

def bundled : Templates :=
  { commands := Command.all.filterMap fun command =>
      (bundledTemplate? command).map (command, ·)
    failure := failureTemplate }

theorem template?_bundled (command : Command) :
    bundled.template? command = bundledTemplate? command := by
  cases command <;> rfl

end Templates

end SelfCheck
