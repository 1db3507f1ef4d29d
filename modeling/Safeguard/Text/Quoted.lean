import Safeguard.Text.Unprintable
import Safeguard.Text.Extending

/-!
# Quoted text

Text in double quotes, as messages show a raw value: the quote, the backslash and the common
controls have short escapes, any other character without a shape of its own is written by its code
point.
-/

namespace Safeguard.Text

/-- The code point of a character in lower-case hexadecimal. -/
def hexText (n : Nat) : List Char := Nat.toDigits 16 n

/-- One character inside quotes. -/
def quoteChar (c : Char) : List Char :=
  if c = '"' then ['\\', '"']
  else if c = '\\' then ['\\', '\\']
  else if c = '\n' then ['\\', 'n']
  else if c = '\r' then ['\\', 'r']
  else if c = '\t' then ['\\', 't']
  else if c.toNat = 0 then ['\\', '0']
  else if isExtending c || !isPrintable c then
    ['\\', 'u', '\x7b'] ++ hexText c.toNat ++ ['\x7d']
  else [c]

/-- A text in double quotes. -/
def quoted (s : String) : String :=
  String.ofList ('"' :: s.toList.flatMap quoteChar ++ ['"'])

/-- One character inside double quotes, where a single quote has an escape too. -/
def quoteStrictly (c : Char) : List Char := if c = '\'' then ['\\', '\''] else quoteChar c

/-- A text in double quotes in which single quotes have an escape too. -/
def quotedStrictly (s : String) : String :=
  String.ofList ('"' :: s.toList.flatMap quoteStrictly ++ ['"'])

end Safeguard.Text
