import SelfCheck.Command

/-! The positional fields at the front of each request. -/

set_option autoImplicit false

namespace SelfCheck

/-- A positional field and its width in bytes. -/
structure Slot where
  name : String
  width : Nat
  deriving DecidableEq, Repr

namespace Slot

def transactionDate : Slot := ⟨"transaction_date", 18⟩

def noBlock : Slot := ⟨"no_block", 1⟩

def language : Slot := ⟨"language", 3⟩

def dueDate : Slot := ⟨"nb_due_date", 18⟩

end Slot

open Slot in
/-- The positional fields of a request, in wire order. -/
def Command.layout : Command → List Slot
  | blockPatron => [⟨"card_retained", 1⟩, transactionDate]
  | checkin => [noBlock, transactionDate, ⟨"return_date", 18⟩]
  | checkout => [⟨"sc_renewal_policy", 1⟩, noBlock, transactionDate, dueDate]
  | feePaid => [transactionDate, ⟨"fee_type", 2⟩, ⟨"payment_type", 2⟩, ⟨"currency_type", 3⟩]
  | hold => [⟨"hold_mode", 1⟩, transactionDate]
  | login => [⟨"uid_algorithm", 1⟩, ⟨"pwd_algorithm", 1⟩]
  | patronInformation => [language, transactionDate, ⟨"summary", 10⟩]
  | patronStatusRequest => [language, transactionDate]
  | renew => [⟨"third_party_allowed", 1⟩, noBlock, transactionDate, dueDate]
  | requestAcsResend => []
  | scStatus => [⟨"status_code", 1⟩, ⟨"max_print_width", 3⟩, ⟨"protocol_version", 4⟩]
  | endPatronSession | itemInformation | itemStatusUpdate | patronEnable | renewAll =>
    [transactionDate]

end SelfCheck
