/-!
# The words of a JSON text

A JSON text is first cut into tokens.  Cutting never fails: where the text ends inside a token or
breaks the rules of one, the token list ends with a broken token that remembers the fault.  A
reader that never gets that far never sees the fault, so of several faults in a text the first
one counts, whatever kind the others are.

A string token keeps its escapes apart from its characters.  Pairing the two halves of a
surrogate pair is left to whoever needs the text: a string that is only skipped may contain a
lone half.
-/

namespace Admittance.Json

/-- How a text fails to be JSON: it ends too early, or something in it is out of place. -/
inductive Fault
  | truncated
  | malformed
  deriving DecidableEq, Repr

/-- One element of a string: a character, or a sixteen-bit unit given by its four digits. -/
inductive Piece
  | char (c : Char)
  | unit (code : Nat)
  deriving DecidableEq, Repr

/-- The three values that are written as words. -/
inductive Word
  | null
  | true
  | false
  deriving DecidableEq, Repr

/-- A number as it is written. -/
structure Numeral where
  negative : Bool
  /-- The digits before the point. -/
  whole : List Char
  /-- The digits after the point, none when there is no point. -/
  fraction : List Char
  /-- Whether the exponent has a minus sign, and its digits. -/
  exponent : Option (Bool × List Char)
  deriving DecidableEq, Repr

inductive Token
  | openBrace
  | closeBrace
  | openBracket
  | closeBracket
  | comma
  | colon
  | word (w : Word)
  | string (pieces : List Piece)
  | number (n : Numeral)
  /-- A word that goes wrong after its first letter. -/
  | brokenWord (fault : Fault)
  /-- A string without an end, up to where it goes wrong. -/
  | brokenString (pieces : List Piece) (fault : Fault)
  /-- A number that goes wrong after its first character. -/
  | brokenNumber (fault : Fault)
  /-- A character that starts no token. -/
  | stray
  deriving DecidableEq, Repr

/-! ## Strings -/

/-- The value of a hexadecimal digit of either case. -/
def hexValue? (c : Char) : Option Nat :=
  if '0' ≤ c ∧ c ≤ '9' then some (c.toNat - '0'.toNat)
  else if 'a' ≤ c ∧ c ≤ 'f' then some (c.toNat - 'a'.toNat + 10)
  else if 'A' ≤ c ∧ c ≤ 'F' then some (c.toNat - 'A'.toNat + 10)
  else none

/-- The unit that four hexadecimal digits stand for. -/
def hexUnit? (a b c d : Char) : Option Nat := do
  let high := (← hexValue? a) * 16 + (← hexValue? b)
  let low := (← hexValue? c) * 16 + (← hexValue? d)
  return high * 256 + low

/-- The character that a letter after a backslash stands for. -/
def escaped? (c : Char) : Option Char :=
  if c = '"' then some '"'
  else if c = '\\' then some '\\'
  else if c = '/' then some '/'
  else if c = 'b' then some '\x08'
  else if c = 'f' then some '\x0c'
  else if c = 'n' then some '\n'
  else if c = 'r' then some '\r'
  else if c = 't' then some '\t'
  else none

/-- The number of bytes that a text takes in UTF-8. -/
def utf8Length (s : List Char) : Nat := s.foldl (fun n c => n + c.utf8Size) 0

/-- What is wrong with a unit escape before the end of the text: fewer than four bytes are left
for its digits, or they are no digits. -/
def shortUnitFault (rest : List Char) : Fault :=
  if utf8Length rest < 4 then .truncated else .malformed

/-- A string from behind its opening quote: its pieces, and either the text after the closing
quote or the fault that ends it. -/
structure StringScan where
  pieces : List Piece
  outcome : Except Fault (List Char)

/-- Puts a piece in front. -/
def StringScan.cons (p : Piece) (s : StringScan) : StringScan := ⟨p :: s.pieces, s.outcome⟩

/-- Scans a string from behind its opening quote. -/
def scanString : List Char → StringScan
  | [] => ⟨[], .error .truncated⟩
  | '"' :: rest => ⟨[], .ok rest⟩
  | ['\\'] => ⟨[], .error .truncated⟩
  | '\\' :: 'u' :: a :: b :: c :: d :: rest =>
    match hexUnit? a b c d with
    | some code => (scanString rest).cons (.unit code)
    | none => ⟨[], .error .malformed⟩
  | '\\' :: 'u' :: rest => ⟨[], .error (shortUnitFault rest)⟩
  | '\\' :: e :: rest =>
    match escaped? e with
    | some c => (scanString rest).cons (.char c)
    | none => ⟨[], .error .malformed⟩
  | c :: rest =>
    if c.toNat < 0x20 then ⟨[], .error .malformed⟩ else (scanString rest).cons (.char c)

/-! ## Words and numbers -/

/-- Scans the remaining letters of a word. -/
def scanLetters : List Char → List Char → Except Fault (List Char)
  | [], rest => .ok rest
  | _ :: _, [] => .error .truncated
  | letter :: letters, c :: rest =>
    if c = letter then scanLetters letters rest else .error .malformed

/-- Whether a character is a decimal digit. -/
def isDigit (c : Char) : Bool := '0' ≤ c && c ≤ '9'

/-- At least one digit, as many as there are. -/
def scanDigits (s : List Char) : Except Fault (List Char × List Char) :=
  match s.span isDigit with
  | ([], []) => .error .truncated
  | ([], _ :: _) => .error .malformed
  | (digits, rest) => .ok (digits, rest)

/-- The digits before the point; a leading zero stands alone. -/
def scanWhole (s : List Char) : Except Fault (List Char × List Char) :=
  match s with
  | '0' :: rest =>
    match rest with
    | c :: _ => if isDigit c then .error .malformed else .ok (['0'], rest)
    | [] => .ok (['0'], rest)
  | _ => scanDigits s

/-- The point and the digits after it, if there is a point. -/
def scanFraction (s : List Char) : Except Fault (List Char × List Char) :=
  match s with
  | '.' :: rest => scanDigits rest
  | _ => .ok ([], s)

/-- The sign and the digits of an exponent. -/
def scanSignedDigits (s : List Char) : Except Fault ((Bool × List Char) × List Char) :=
  match s with
  | '-' :: rest => (scanDigits rest).map fun p => ((true, p.1), p.2)
  | '+' :: rest => (scanDigits rest).map fun p => ((false, p.1), p.2)
  | _ => (scanDigits s).map fun p => ((false, p.1), p.2)

/-- The exponent, if there is one. -/
def scanExponent (s : List Char) : Except Fault (Option (Bool × List Char) × List Char) :=
  match s with
  | 'e' :: rest => (scanSignedDigits rest).map fun p => (some p.1, p.2)
  | 'E' :: rest => (scanSignedDigits rest).map fun p => (some p.1, p.2)
  | _ => .ok (none, s)

/-- A number behind its sign. -/
def scanUnsigned (negative : Bool) (s : List Char) : Except Fault (Numeral × List Char) := do
  let (whole, s) ← scanWhole s
  let (fraction, s) ← scanFraction s
  let (exponent, s) ← scanExponent s
  return (⟨negative, whole, fraction, exponent⟩, s)

/-! ## Tokens -/

/-- Whether a character may stand between tokens. -/
def isBlank (c : Char) : Bool := c = ' ' || c = '\n' || c = '\t' || c = '\r'

/-- A word behind its first letter. -/
def wordToken (w : Word) (letters rest : List Char) : Token × List Char :=
  match scanLetters letters rest with
  | .ok rest => (.word w, rest)
  | .error fault => (.brokenWord fault, [])

/-- A number behind its sign. -/
def numberToken (negative : Bool) (rest : List Char) : Token × List Char :=
  match scanUnsigned negative rest with
  | .ok (n, rest) => (.number n, rest)
  | .error fault => (.brokenNumber fault, [])

/-- A string behind its opening quote. -/
def stringToken (rest : List Char) : Token × List Char :=
  match scanString rest with
  | ⟨pieces, .ok rest⟩ => (.string pieces, rest)
  | ⟨pieces, .error fault⟩ => (.brokenString pieces fault, [])

/-- The token that starts with the character `c`, and the text after it; a broken token takes
all of the text. -/
def tokenFrom (c : Char) (rest : List Char) : Token × List Char :=
  if c = '\x7b' then (.openBrace, rest)
  else if c = '\x7d' then (.closeBrace, rest)
  else if c = '[' then (.openBracket, rest)
  else if c = ']' then (.closeBracket, rest)
  else if c = ',' then (.comma, rest)
  else if c = ':' then (.colon, rest)
  else if c = '"' then stringToken rest
  else if c = 'n' then wordToken .null ['u', 'l', 'l'] rest
  else if c = 't' then wordToken .true ['r', 'u', 'e'] rest
  else if c = 'f' then wordToken .false ['a', 'l', 's', 'e'] rest
  else if c = '-' then numberToken true rest
  else if isDigit c then numberToken false (c :: rest)
  else (.stray, [])

/-- At most `fuel` tokens of a text. -/
def tokensWithin : Nat → List Char → List Token
  | 0, _ => []
  | fuel + 1, s =>
    match s.dropWhile isBlank with
    | [] => []
    | c :: rest => (tokenFrom c rest).1 :: tokensWithin fuel (tokenFrom c rest).2

/-- The tokens of a text.  Every token takes at least one character, so there are no more of
them than characters. -/
def tokens (s : List Char) : List Token := tokensWithin s.length s

end Admittance.Json
