import Admittance.Json.Failure
import Admittance.Text.Map

/-!
# Reading typed values

A reader takes a value of one type from the front of a token list and leaves the tokens behind
it.  Readers look at the tokens strictly from left to right and stop at the first failure, so the
failure that comes first in the text is the one that is reported.
-/

namespace Admittance.Json

/-- A reader takes the tokens that are left; it gives a value and the tokens behind it. -/
abbrev Reader (α : Type) := List Token → Except Failure (α × List Token)

/-! ## Text -/

/-- The first half of a surrogate pair. -/
def isHighHalf (code : Nat) : Bool := 0xD800 ≤ code && code ≤ 0xDBFF

/-- The second half of a surrogate pair. -/
def isLowHalf (code : Nat) : Bool := 0xDC00 ≤ code && code ≤ 0xDFFF

/-- The character of a surrogate pair. -/
def joinHalves (high low : Nat) : Char :=
  Char.ofNat ((high - 0xD800) * 0x400 + (low - 0xDC00) + 0x10000)

/-- The characters of a string, given the fault that breaks it off if there is one.  Halves of a
surrogate pair must stand together. -/
def decodePieces (broken : Option Fault) : List Piece → Except Fault (List Char)
  | [] => match broken with
    | none => .ok []
    | some fault => .error fault
  | .char c :: rest => (decodePieces broken rest).map (c :: ·)
  | .unit code :: rest =>
    if isLowHalf code then .error .malformed
    else if isHighHalf code then
      match rest with
      | [] => .error (broken.getD .malformed)
      | .char _ :: _ => .error .malformed
      | .unit low :: rest =>
        if isLowHalf low then (decodePieces broken rest).map (joinHalves code low :: ·)
        else .error .malformed
    else (decodePieces broken rest).map (Char.ofNat code :: ·)

/-- The text of a string token. -/
def textOf (broken : Option Fault) (pieces : List Piece) : Except Failure String :=
  match decodePieces broken pieces with
  | .ok cs => .ok (String.ofList cs)
  | .error fault => .error (.fault fault)

/-! ## Values of the wrong type -/

/-- What a token is, for a message about it; a token that starts no value is malformed. -/
def Token.found : Token → Except Failure Found
  | .word .null => .ok .null
  | .word .true => .ok (.boolean true)
  | .word .false => .ok (.boolean false)
  | .string pieces => (textOf none pieces).map .string
  | .number n =>
    match n.value with
    | .ok value => .ok value.found
    | .error fault => .error (.fault fault)
  | .openBracket => .ok .sequence
  | .openBrace => .ok .map
  | .brokenWord fault => .error (.fault fault)
  | .brokenString pieces fault => (textOf (some fault) pieces).map .string
  | .brokenNumber fault => .error (.fault fault)
  | .closeBrace | .closeBracket | .comma | .colon | .stray => .error (.fault .malformed)

/-- The failure to find what was expected at the front of the tokens. -/
def mismatch {α : Type} (expected : String) : List Token → Except Failure α
  | [] => .error (.fault .truncated)
  | t :: _ => do .error (.data (.invalidType (← t.found) expected))

/-! ## Punctuation -/

/-- Takes one given token. -/
def expect (t : Token) : List Token → Except Failure (List Token)
  | [] => .error (.fault .truncated)
  | t' :: rest => if t' = t then .ok rest else .error (.fault .malformed)

/-- Whether a container has another entry: `none` at its end, which stays in place, and otherwise
the tokens of the entry. -/
def nextEntry (close : Token) (first : Bool) : List Token → Except Failure (Option (List Token))
  | [] => .error (.fault .truncated)
  | t :: rest =>
    if t = close then .ok none
    else if first then .ok (some (t :: rest))
    else if t = .comma then
      match rest with
      | [] => .error (.fault .truncated)
      | t' :: _ => if t' = close then .error (.fault .malformed) else .ok (some rest)
    else .error (.fault .malformed)

/-- The key of an entry of an object. -/
def readKey : List Token → Except Failure (String × List Token)
  | [] => .error (.fault .truncated)
  | .string pieces :: rest => (textOf none pieces).map (·, rest)
  | .brokenString pieces fault :: rest => (textOf (some fault) pieces).map (·, rest)
  | _ :: _ => .error (.fault .malformed)

/-! ## Skipping -/

/-- What may come next while a value is skipped. -/
inductive Awaiting
  | value
  /-- The first value of an array, or its end. -/
  | firstValue
  | key
  /-- The first key of an object, or its end. -/
  | firstKey
  | colon
  /-- A comma, or the end of the container. -/
  | more
  deriving DecidableEq

/-- Skips the rest of a value.  The list says of every container that the value has open,
innermost first, whether it is an array; any number of them may be open. -/
def skipRest : Awaiting → List Bool → List Token → Except Failure (List Token)
  | .more, [], rest => .ok rest
  | _, _, [] => .error (.fault .truncated)
  | .more, inArray :: others, t :: rest =>
    if t = .comma then skipRest (if inArray then .value else .key) (inArray :: others) rest
    else if t = (if inArray then .closeBracket else .closeBrace) then
      skipRest .more others rest
    else .error (.fault .malformed)
  | .colon, stack, t :: rest =>
    if t = .colon then skipRest .value stack rest else .error (.fault .malformed)
  | .key, stack, .string _ :: rest => skipRest .colon stack rest
  | .key, _, .brokenString _ fault :: _ => .error (.fault fault)
  | .key, _, _ :: _ => .error (.fault .malformed)
  | .firstKey, _ :: others, .closeBrace :: rest => skipRest .more others rest
  | .firstKey, stack, .string _ :: rest => skipRest .colon stack rest
  | .firstKey, _, .brokenString _ fault :: _ => .error (.fault fault)
  | .firstKey, _, _ :: _ => .error (.fault .malformed)
  | .firstValue, _ :: others, .closeBracket :: rest => skipRest .more others rest
  | _, stack, t :: rest =>
    match t with
    | .word _ | .number _ | .string _ => skipRest .more stack rest
    | .openBracket => skipRest .firstValue (true :: stack) rest
    | .openBrace => skipRest .firstKey (false :: stack) rest
    | .brokenWord fault | .brokenString _ fault => .error (.fault fault)
    | .brokenNumber _ => .error (.fault .malformed)
    | .closeBrace | .closeBracket | .comma | .colon | .stray => .error (.fault .malformed)

/-- Skips one value of any shape.  Numbers that are skipped have no range, and strings may hold
lone halves of surrogate pairs. -/
def skipValue (ts : List Token) : Except Failure (List Token) :=
  skipRest .value [] ts

/-! ## Plain values -/

/-- A text. -/
def readText : Reader String
  | .string pieces :: rest => (textOf none pieces).map (·, rest)
  | ts => mismatch "a string" ts

/-- A truth value. -/
def readBool : Reader Bool
  | .word .true :: rest => .ok (true, rest)
  | .word .false :: rest => .ok (false, rest)
  | ts => mismatch "a boolean" ts

/-- A natural number of `bits` bits, which are called by `name`. -/
def readNatural (bits : Nat) (name : String) : Reader Nat
  | .number n :: rest =>
    match n.value with
    | .error fault => .error (.fault fault)
    | .ok (.natural k) =>
      if k < Nat.pow 2 bits then .ok (k, rest) else .error (.data (.invalidValue k name))
    | .ok (.negative k) => .error (.data (.invalidValue k name))
    | .ok (.fraction word) => .error (.data (.invalidType (.fraction word) name))
  | ts => mismatch name ts

/-- The value null. -/
def readNull (expected : String) : Reader Unit
  | .word .null :: rest => .ok ((), rest)
  | ts => mismatch expected ts

/-- Null, or a value of the given reader. -/
def readOptional {α : Type} (inner : Reader α) : Reader (Option α)
  | .word .null :: rest => .ok (none, rest)
  | ts => (inner ts).map fun p => (some p.1, p.2)

/-- Reads entries of a map of texts up to its end, at most `fuel` of them. -/
def readTextEntries :
    Nat → Bool → TextMap → List Token → Except Failure (TextMap × List Token)
  | 0, _, _, _ => .error (.fault .truncated)
  | fuel + 1, first, m, ts => do
    match ← nextEntry .closeBrace first ts with
    | none => return (m, ts)
    | some ts =>
      let (name, ts) ← readKey ts
      let (value, ts) ← readText (← expect .colon ts)
      readTextEntries fuel false (m.insert name value) ts

/-- A map of texts; the last entry of a name counts. -/
def readTextMap : Reader TextMap
  | .openBrace :: ts => do
    let (m, ts) ← readTextEntries (ts.length + 1) true .empty ts
    return (m, ← expect .closeBrace ts)
  | ts => mismatch "a map" ts

/-! ## Whole texts -/

/-- Reads a whole text: one value, and nothing but blanks behind it. -/
def decodeWith {α : Type} (reader : Reader α) (s : String) : Except Failure α :=
  match reader (tokens s.toList) with
  | .error failure => .error failure
  | .ok (value, []) => .ok value
  | .ok (_, _ :: _) => .error (.fault .malformed)

end Admittance.Json
