import SelfCheck.Text.Blank

/-! The requests a circulation terminal sends, their wire codes and their names. -/

set_option autoImplicit false

namespace SelfCheck

/-- A request, in the order of the names. -/
inductive Command where
  | blockPatron
  | checkin
  | checkout
  | endPatronSession
  | feePaid
  | hold
  | itemInformation
  | itemStatusUpdate
  | login
  | patronEnable
  | patronInformation
  | patronStatusRequest
  | renew
  | renewAll
  | requestAcsResend
  | scStatus
  deriving DecidableEq, Repr, Inhabited

namespace Command

def all : List Command :=
  [blockPatron, checkin, checkout, endPatronSession, feePaid, hold, itemInformation,
    itemStatusUpdate, login, patronEnable, patronInformation, patronStatusRequest, renew, renewAll,
    requestAcsResend, scStatus]

theorem mem_all (command : Command) : command ∈ all := by cases command <;> decide

/-- The two characters a request starts with. -/
def code : Command → String
  | blockPatron => "01"
  | checkin => "09"
  | checkout => "11"
  | endPatronSession => "35"
  | feePaid => "37"
  | hold => "15"
  | itemInformation => "17"
  | itemStatusUpdate => "19"
  | login => "93"
  | patronEnable => "25"
  | patronInformation => "63"
  | patronStatusRequest => "23"
  | renew => "29"
  | renewAll => "65"
  | requestAcsResend => "97"
  | scStatus => "99"

/-- The two characters the answer starts with; a resend is answered by an earlier answer. -/
def responseCode? : Command → Option String
  | blockPatron | patronStatusRequest => some "24"
  | checkin => some "10"
  | checkout => some "12"
  | endPatronSession => some "36"
  | feePaid => some "38"
  | hold => some "16"
  | itemInformation => some "18"
  | itemStatusUpdate => some "20"
  | login => some "94"
  | patronEnable => some "26"
  | patronInformation => some "64"
  | renew => some "30"
  | renewAll => some "66"
  | requestAcsResend => none
  | scStatus => some "98"

/-- The name in configurations and calls. -/
def name : Command → String
  | blockPatron => "BLOCK_PATRON"
  | checkin => "CHECKIN"
  | checkout => "CHECKOUT"
  | endPatronSession => "END_PATRON_SESSION"
  | feePaid => "FEE_PAID"
  | hold => "HOLD"
  | itemInformation => "ITEM_INFORMATION"
  | itemStatusUpdate => "ITEM_STATUS_UPDATE"
  | login => "LOGIN"
  | patronEnable => "PATRON_ENABLE"
  | patronInformation => "PATRON_INFORMATION"
  | patronStatusRequest => "PATRON_STATUS_REQUEST"
  | renew => "RENEW"
  | renewAll => "RENEW_ALL"
  | requestAcsResend => "REQUEST_ACS_RESEND"
  | scStatus => "SC_STATUS"

/-- The name in listings. -/
def title : Command → String
  | blockPatron => "BlockPatron"
  | checkin => "Checkin"
  | checkout => "Checkout"
  | endPatronSession => "EndPatronSession"
  | feePaid => "FeePaid"
  | hold => "Hold"
  | itemInformation => "ItemInformation"
  | itemStatusUpdate => "ItemStatusUpdate"
  | login => "Login"
  | patronEnable => "PatronEnable"
  | patronInformation => "PatronInformation"
  | patronStatusRequest => "PatronStatusRequest"
  | renew => "Renew"
  | renewAll => "RenewAll"
  | requestAcsResend => "RequestAcsResend"
  | scStatus => "ScStatus"

def ofCode? (text : String) : Option Command := all.find? (·.code = text)

theorem ofCode?_code (command : Command) : ofCode? command.code = some command := by
  cases command <;> decide

/-- The command of exactly this name. -/
def ofExactName? (text : String) : Option Command := all.find? (·.name = text)

theorem ofExactName?_name (command : Command) : ofExactName? command.name = some command := by
  cases command <;> decide

/-- Requests that run the session itself; no policy switches them off. -/
def isSessionControl : Command → Bool
  | login | scStatus | requestAcsResend => true
  | _ => false

/-- Place in the order of the names. -/
def place (command : Command) : Nat := all.idxOf command

end Command

/-- Why a text names nothing. -/
inductive NameError where
  | empty
  | unknownCommand (text : String)
  | badFormat (text : String)
  deriving DecidableEq, Repr

def NameError.message : NameError → String
  | empty => "empty value"
  | unknownCommand text => "unknown command: " ++ text
  | badFormat text => "invalid format: " ++ text

/-- The command a configuration means, whatever the case of its letters and the space around it. -/
def Command.ofName (text : String) : Except NameError Command :=
  let trimmed := Text.trim text
  if trimmed = "" then .error .empty
  else match ofExactName? (Text.upperAscii trimmed) with
    | some command => .ok command
    | none => .error (.unknownCommand trimmed)

end SelfCheck
