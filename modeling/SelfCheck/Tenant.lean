import SelfCheck.Command

/-! The libraries that share a gateway. -/

set_option autoImplicit false

namespace SelfCheck

/-- The name of a library, without space around it. -/
structure TenantId where
  text : String
  nonempty : text ≠ ""
  deriving DecidableEq, Repr

namespace TenantId

def of (raw : String) : Except NameError TenantId :=
  let trimmed := Text.trim raw
  if named : trimmed = "" then .error .empty else .ok ⟨trimmed, named⟩

def of? (raw : String) : Option TenantId := (of raw).toOption

theorem of_eq_error_iff (raw : String) (e : NameError) :
    of raw = .error e ↔ Text.trim raw = "" ∧ e = .empty := by
  simp only [of]
  split <;> constructor <;> intro h <;> simp_all

end TenantId

instance : LT TenantId := ⟨fun a b => a.text < b.text⟩

instance : DecidableLT TenantId := fun a b => inferInstanceAs (Decidable (a.text < b.text))

end SelfCheck
