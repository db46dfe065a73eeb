/-!
# Printing compact JSON

Values are printed without blanks.  In a string only quotes, backslashes and the characters below
the space are escaped; everything else stands as it is.
-/

namespace Admittance.Json

/-- The lower-case hexadecimal digit of a number below sixteen. -/
def hexDigit (n : Nat) : Char :=
  if n < 10 then Char.ofNat ('0'.toNat + n) else Char.ofNat ('a'.toNat + (n - 10))

/-- One character inside a string. -/
def escape (c : Char) : List Char :=
  if c = '"' then ['\\', '"']
  else if c = '\\' then ['\\', '\\']
  else if c = '\x08' then ['\\', 'b']
  else if c = '\x0c' then ['\\', 'f']
  else if c = '\n' then ['\\', 'n']
  else if c = '\r' then ['\\', 'r']
  else if c = '\t' then ['\\', 't']
  else if c.toNat < 0x20 then
    ['\\', 'u', '0', '0', hexDigit (c.toNat / 16), hexDigit (c.toNat % 16)]
  else [c]

/-- A text as a JSON string. -/
def printText (s : String) : List Char := '"' :: s.toList.flatMap escape ++ ['"']

/-- A truth value. -/
def printBool (b : Bool) : List Char :=
  if b then ['t', 'r', 'u', 'e'] else ['f', 'a', 'l', 's', 'e']

/-- A natural number. -/
def printNatural (n : Nat) : List Char := Nat.toDigits 10 n

/-- Printed values with commas between them. -/
def commaSeparated : List (List Char) → List Char
  | [] => []
  | [v] => v
  | v :: vs => v ++ ',' :: commaSeparated vs

/-- An entry of an object. -/
def printEntry (name : String) (value : List Char) : List Char :=
  printText name ++ ':' :: value

/-- An object of printed values. -/
def printObject (entries : List (String × List Char)) : List Char :=
  '\x7b' :: commaSeparated (entries.map fun e => printEntry e.1 e.2) ++ ['\x7d']

end Admittance.Json
