import Chatflow.Text.Codes
import Chatflow.Text.Printable

/-! Texts in quotes, on one line and with every character visible. -/

namespace Chatflow.Text

/-- A hexadecimal digit in lower case. -/
def hexDigit (n : Nat) : Char := if n < 10 then Char.ofNat (48 + n) else Char.ofNat (87 + n)

/-- The last `width` hexadecimal digits of a number. -/
def hexDigits : Nat → Nat → List Char
  | 0, _ => []
  | width + 1, n => hexDigits width (n / 16) ++ [hexDigit (n % 16)]

/-- The escape of a code. -/
def escape (code : Nat) : List Char :=
  if code < 0x100 then '\\' :: 'x' :: hexDigits 2 code
  else if code < 0x10000 then '\\' :: 'u' :: hexDigits 4 code
  else '\\' :: 'U' :: hexDigits 8 code

/-- A character inside quotes: the quote and the backslash are escaped, and so is every character that
would not show. -/
def quoteChar (quote c : Char) : List Char :=
  if c = quote ∨ c = '\\' then ['\\', c]
  else if c = '\n' then ['\\', 'n']
  else if c = '\r' then ['\\', 'r']
  else if c = '\t' then ['\\', 't']
  else if isPrintable c then [c]
  else escape c.toNat

/-- A code inside quotes. Halves of characters never show. -/
def quoteCode (quote : Char) (code : Nat) : List Char :=
  if isHalf code then escape code else quoteChar quote (Char.ofNat code)

/-- A quoted text. Single quotes are used unless the text holds one and no double quote. -/
def quoted (s : String) : String :=
  let quote := if s.toList.contains '\'' && !s.toList.contains '"' then '"' else '\''
  String.ofList (quote :: (codes s).flatMap (quoteCode quote) ++ [quote])

end Chatflow.Text
