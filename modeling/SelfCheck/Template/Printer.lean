import SelfCheck.Template

/-! The source of a template. -/

set_option autoImplicit false

namespace SelfCheck.Template

def tagText (inside : String) : String := "\x7b\x7b" ++ inside ++ "\x7d\x7d"

def widthText : Option Nat → String
  | some w => ":" ++ toString w
  | none => ""

mutual

def printNode : Node → String
  | .text s => s
  | .value path width digit => tagText ((if digit then "#" else "") ++ path ++ widthText width)
  | .block path each body =>
    tagText ((if each then "*" else "?") ++ path) ++ printNodes body ++ tagText ("/" ++ path)

def printNodes : List Node → String
  | [] => ""
  | node :: nodes => printNode node ++ printNodes nodes

end

def print (template : Template) : String := printNodes template.nodes

end SelfCheck.Template
