import Stencil.Text.Printable

/-!
# Stencil.Text.Quoted — texts quoted in messages

A quoted text stands between double quotes. Quotes, backslashes and characters that do
not print are escaped, the latter by their code.
-/

namespace Stencil.Text

/-- The code of a character in hexadecimal digits, without leading zeros. -/
def hexCode (c : Char) : List Char := (Nat.toDigits 16 c.toNat)

/-- A character inside a quoted text. -/
def quoteChar (c : Char) : List Char :=
  if c = '"' then ['\\', '"']
  else if c = '\\' then ['\\', '\\']
  else if c = '\n' then ['\\', 'n']
  else if c = '\r' then ['\\', 'r']
  else if c = '\t' then ['\\', 't']
  else if c.toNat = 0 then ['\\', '0']
  else if isPrintable c then [c]
  else '\\' :: 'u' :: '\x7b' :: hexCode c ++ ['\x7d']

/-- The text between quotes. -/
def quote (s : String) : String := String.ofList ('"' :: s.toList.flatMap quoteChar ++ ['"'])

end Stencil.Text
