import SelfCheck.Text.Numeral

/-! TOML strings: with escapes between double quotes, or as they are between single quotes; on one
line, or between tripled quotes on several. -/

set_option autoImplicit false

namespace SelfCheck.Toml

def isWhite (c : Char) : Bool := c = ' ' || c = '\t'

/-- Whether a character may stand in a string or a comment. -/
def isPlain (c : Char) : Bool := c = '\t' || (0x20 ≤ c.toNat && c.toNat ≠ 0x7F)

/-- What stands behind an end of line at the front. -/
def newline? : List Char → Option (List Char)
  | '\n' :: rest => some rest
  | '\r' :: '\n' :: rest => some rest
  | _ => none

/-- The character of a code point written in hexadecimal. -/
def codePoint? (digits : List Char) : Option Char :=
  if digits.all Text.isHexDigit then
    let n := Text.hexNumber digits
    if n < 0xD800 || (0xE000 ≤ n && n < 0x110000) then some (Char.ofNat n) else none
  else none

/-- Escapes of one letter. -/
def escape? : Char → Option Char
  | 'b' => some '\x08'
  | 't' => some '\t'
  | 'n' => some '\n'
  | 'f' => some '\x0c'
  | 'r' => some '\r'
  | 'e' => some '\x1b'
  | '"' => some '"'
  | '\\' => some '\\'
  | _ => none

/-- The characters up to a double quote, the last one in front. -/
def readEscaped : List Char → List Char → Option (List Char × List Char)
  | [], _ => none
  | '"' :: rest, done => some (done, rest)
  | '\\' :: 'x' :: a :: b :: rest, done =>
    (codePoint? [a, b]).bind fun c => readEscaped rest (c :: done)
  | '\\' :: 'u' :: a :: b :: c :: d :: rest, done =>
    (codePoint? [a, b, c, d]).bind fun c => readEscaped rest (c :: done)
  | '\\' :: 'U' :: a :: b :: c :: d :: e :: f :: g :: h :: rest, done =>
    (codePoint? [a, b, c, d, e, f, g, h]).bind fun c => readEscaped rest (c :: done)
  | '\\' :: c :: rest, done => (escape? c).bind fun c => readEscaped rest (c :: done)
  | c :: rest, done => if isPlain c then readEscaped rest (c :: done) else none

/-- The characters up to a single quote, the last one in front. -/
def readLiteral : List Char → List Char → Option (List Char × List Char)
  | [], _ => none
  | '\'' :: rest, done => some (done, rest)
  | c :: rest, done => if isPlain c then readLiteral rest (c :: done) else none

/-- Two more quotes may stand in front of the closing ones. -/
def closing (quote : Char) (rest done : List Char) : List Char × List Char :=
  match rest with
  | a :: b :: more =>
    if a = quote && b = quote then (quote :: quote :: done, more)
    else if a = quote then (quote :: done, b :: more)
    else (done, rest)
  | [a] => if a = quote then (quote :: done, []) else (done, rest)
  | [] => (done, rest)

/-- The characters up to tripled double quotes, the last one in front. While `skipping`, white
space and ends of lines do not count. -/
def readEscapedLines : Bool → List Char → List Char → Option (List Char × List Char)
  | _, [], _ => none
  | _, '"' :: '"' :: '"' :: rest, done => some (closing '"' rest done)
  | _, '\\' :: 'x' :: a :: b :: rest, done =>
    (codePoint? [a, b]).bind fun c => readEscapedLines false rest (c :: done)
  | _, '\\' :: 'u' :: a :: b :: c :: d :: rest, done =>
    (codePoint? [a, b, c, d]).bind fun c => readEscapedLines false rest (c :: done)
  | _, '\\' :: 'U' :: a :: b :: c :: d :: e :: f :: g :: h :: rest, done =>
    (codePoint? [a, b, c, d, e, f, g, h]).bind fun c => readEscapedLines false rest (c :: done)
  | _, '\\' :: c :: rest, done =>
    if (newline? ((c :: rest).dropWhile isWhite)).isSome then
      if isWhite c || c = '\n' then readEscapedLines true rest done
      else match rest with
        | [] => none
        | _ :: rest => readEscapedLines true rest done
    else (escape? c).bind fun c => readEscapedLines false rest (c :: done)
  | skipping, '\r' :: '\n' :: rest, done =>
    readEscapedLines skipping rest (if skipping then done else '\n' :: '\r' :: done)
  | skipping, c :: rest, done =>
    if skipping && (isWhite c || c = '\n') then readEscapedLines true rest done
    else if c = '\n' || isPlain c then readEscapedLines false rest (c :: done)
    else none

/-- The characters up to tripled single quotes, the last one in front. -/
def readLiteralLines : List Char → List Char → Option (List Char × List Char)
  | [], _ => none
  | '\'' :: '\'' :: '\'' :: rest, done => some (closing '\'' rest done)
  | '\r' :: '\n' :: rest, done => readLiteralLines rest ('\n' :: '\r' :: done)
  | c :: rest, done =>
    if c = '\n' || isPlain c then readLiteralLines rest (c :: done) else none

/-- The end of line right behind the opening quotes does not count. -/
def afterOpening (cs : List Char) : List Char := (newline? cs).getD cs

def finish (read : Option (List Char × List Char)) : Option (String × List Char) :=
  read.map fun (done, rest) => (String.ofList done.reverse, rest)

/-- A string on one line. -/
def shortString? : List Char → Option (String × List Char)
  | '"' :: rest => finish (readEscaped rest [])
  | '\'' :: rest => finish (readLiteral rest [])
  | _ => none

def string? : List Char → Option (String × List Char)
  | '"' :: '"' :: '"' :: rest => finish (readEscapedLines false (afterOpening rest) [])
  | '\'' :: '\'' :: '\'' :: rest => finish (readLiteralLines (afterOpening rest) [])
  | cs => shortString? cs

end SelfCheck.Toml
