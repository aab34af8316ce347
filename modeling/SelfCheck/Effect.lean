import SelfCheck.Platform
import SelfCheck.Tally

/-! What a session does to the world around it. -/

set_option autoImplicit false

namespace SelfCheck

inductive Effect where
  /-- Bytes for the terminal. -/
  | write (bytes : List UInt8)
  /-- A login at the platform begins. -/
  | login (account : Account) (password : String)
  /-- A request goes to the platform. -/
  | execute (request : PlatformRequest)
  /-- A handler of the embedding program is called with a request of this code. -/
  | handle (code : String)
  | count (tally : Tally)
  deriving Repr

namespace Effect

def tally? : Effect → Option Tally
  | count tally => some tally
  | _ => none

def written? : Effect → Option (List UInt8)
  | write bytes => some bytes
  | _ => none

/-- Everything written by some effects. -/
def written (effects : List Effect) : List UInt8 := (effects.filterMap written?).flatten

def tallies (effects : List Effect) : List Tally := effects.filterMap tally?

/-- Whether an effect calls somebody outside the gateway other than the terminal. -/
def isCall : Effect → Bool
  | login .. | execute _ | handle _ => true
  | write _ | count _ => false

end Effect

end SelfCheck
