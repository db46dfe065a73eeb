import Admittance.Text.Printable

/-!
# Quoted text in messages

A message that shows a text to a person puts it between double quotes.  Quotes, backslashes and
the usual control characters are escaped by a backslash; any other character that cannot be
shown, or that would merge with the character before it, is written by its code point in braces.
-/

namespace Admittance.Text

/-- The hexadecimal digits of a number, in lower case and without leading zeros. -/
def hexDigits (n : Nat) : List Char := Nat.toDigits 16 n

/-- A character by its code point in braces. -/
def codePointEscape (c : Char) : List Char :=
  ['\\', 'u', '\x7b'] ++ hexDigits c.toNat ++ ['\x7d']

/-- One character of a quoted text. -/
def quotedChar (c : Char) : List Char :=
  if c = '\x00' then ['\\', '0']
  else if c = '\t' then ['\\', 't']
  else if c = '\r' then ['\\', 'r']
  else if c = '\n' then ['\\', 'n']
  else if c = '\\' then ['\\', '\\']
  else if c = '"' then ['\\', '"']
  else if extendsGrapheme c then codePointEscape c
  else if isPrintable c then [c]
  else codePointEscape c

/-- A text between double quotes, with every character in a form that can be shown. -/
def quoted (s : String) : String :=
  "\"" ++ String.ofList (s.toList.flatMap quotedChar) ++ "\""

end Admittance.Text
