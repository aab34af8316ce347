import SelfCheck.Net.HostName.Composed
import SelfCheck.Net.HostName.Refused
import SelfCheck.Net.HostName.Variant

/-! The one spelling of the characters of a name. -/

set_option autoImplicit false

namespace SelfCheck.Net.HostName

/-- What one character gives: nothing, itself, or what it stands for. -/
def spellChar? (c : Char) : Option (List Char) :=
  if isRefused c then none
  else if isDropped c then some []
  else some ((variant? c).getD [c])

/-- Characters in their common spelling, with marks composed. -/
def spell? (cs : List Char) : Option (List Char) :=
  (cs.mapM spellChar?).map fun pieces => composed pieces.flatten

end SelfCheck.Net.HostName
