import SelfCheck.Text.Hidden
import SelfCheck.Text.Numeral

/-! Quoted texts, as error messages and listings show them.

Between the quotes a character stands for itself, behind a backslash, or as its code point.
-/

set_option autoImplicit false

namespace SelfCheck.Text

/-- How one character stands between quotes of the kind `quote`. -/
def escapeChar (quote : Char) (c : Char) : List Char :=
  if c = '\x00' then ['\\', '0']
  else if c = '\t' then ['\\', 't']
  else if c = '\n' then ['\\', 'n']
  else if c = '\r' then ['\\', 'r']
  else if c = '\\' then ['\\', '\\']
  else if c = quote then ['\\', quote]
  else if isHidden c then ("\\u\x7b" ++ lowerHex c.toNat ++ "\x7d").toList
  else [c]

/-- A text in double quotes. -/
def quoted (s : String) : String :=
  String.ofList ('"' :: s.toList.flatMap (escapeChar '"') ++ ['"'])

/-- A character in single quotes. -/
def quotedChar (c : Char) : String :=
  String.ofList ('\'' :: escapeChar '\'' c ++ ['\''])

end SelfCheck.Text
