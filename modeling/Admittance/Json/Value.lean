import Admittance.Json.Printer
import Admittance.Json.Reader

/-!
# JSON values of any shape

Where a document's shape is not known beforehand it is read into a tree.  Numbers stay as they
are written.  The entries of an object keep their order, and looking a name up finds the last
entry of that name.  At most 127 arrays and objects may be open at once.
-/

namespace Admittance.Json

/-- A JSON value. -/
inductive Value
  | null
  | boolean (b : Bool)
  | number (n : Numeral)
  | string (s : String)
  | array (items : List Value)
  | object (entries : List (String × Value))
  deriving Inhabited

namespace Value

/-- The largest number of arrays and objects that may be open at once. -/
def maxDepth : Nat := 127

mutual

/-- Reads a value with at most `fuel` nested values and entries, around which `depth` arrays and
objects are open. -/
def readWithin : Nat → Nat → Reader Value
  | 0, _, _ => .error (.fault .truncated)
  | fuel + 1, depth, ts =>
    match ts with
    | .word .null :: rest => .ok (.null, rest)
    | .word .true :: rest => .ok (.boolean true, rest)
    | .word .false :: rest => .ok (.boolean false, rest)
    | .string pieces :: rest => (textOf none pieces).map fun s => (.string s, rest)
    | .number n :: rest =>
      match n.value with
      | .ok _ => .ok (.number n, rest)
      | .error fault => .error (.fault fault)
    | .openBracket :: rest => do
      if depth < maxDepth then
        let (items, rest) ← readItems fuel (depth + 1) true rest
        return (.array items, rest)
      else .error (.fault .malformed)
    | .openBrace :: rest => do
      if depth < maxDepth then
        let (entries, rest) ← readEntries fuel (depth + 1) true rest
        return (.object entries, rest)
      else .error (.fault .malformed)
    | ts => mismatch "a value" ts

/-- Reads the items of an array and the bracket that closes it. -/
def readItems : Nat → Nat → Bool → List Token → Except Failure (List Value × List Token)
  | 0, _, _, _ => .error (.fault .truncated)
  | fuel + 1, depth, first, ts => do
    match ← nextEntry .closeBracket first ts with
    | none => return ([], ← expect .closeBracket ts)
    | some ts =>
      let (item, ts) ← readWithin fuel depth ts
      let (items, ts) ← readItems fuel depth false ts
      return (item :: items, ts)

/-- Reads the entries of an object and the brace that closes it. -/
def readEntries :
    Nat → Nat → Bool → List Token → Except Failure (List (String × Value) × List Token)
  | 0, _, _, _ => .error (.fault .truncated)
  | fuel + 1, depth, first, ts => do
    match ← nextEntry .closeBrace first ts with
    | none => return ([], ← expect .closeBrace ts)
    | some ts =>
      let (name, ts) ← readKey ts
      let (item, ts) ← readWithin fuel depth (← expect .colon ts)
      let (entries, ts) ← readEntries fuel depth false ts
      return ((name, item) :: entries, ts)

end

/-- Reads a whole text. -/
def decode (text : String) : Except Failure Value :=
  decodeWith (fun ts => readWithin (2 * ts.length + 1) 0 ts) text

/-- A number as it was written. -/
def printNumeral (n : Numeral) : List Char :=
  let sign := if n.negative then ['-'] else []
  let fraction := if n.fraction = [] then [] else '.' :: n.fraction
  let exponent := match n.exponent with
    | none => []
    | some (down, digits) => 'e' :: (if down then '-' :: digits else digits)
  sign ++ n.whole ++ fraction ++ exponent

mutual

/-- The compact text of a value. -/
def print : Value → List Char
  | .null => ['n', 'u', 'l', 'l']
  | .boolean b => printBool b
  | .number n => printNumeral n
  | .string s => printText s
  | .array items => '[' :: commaSeparated (printAll items) ++ [']']
  | .object entries => '\x7b' :: commaSeparated (printEntries entries) ++ ['\x7d']

/-- The compact texts of values. -/
def printAll : List Value → List (List Char)
  | [] => []
  | v :: vs => v.print :: printAll vs

/-- The compact texts of entries. -/
def printEntries : List (String × Value) → List (List Char)
  | [] => []
  | (name, v) :: rest => printEntry name v.print :: printEntries rest

end

/-- The compact text of a value. -/
def encode (v : Value) : String := String.ofList v.print

/-- The value of the last entry of a name. -/
def get? (v : Value) (name : String) : Option Value :=
  match v with
  | .object entries => entries.reverse.lookup name
  | _ => none

/-- The value of an integer. -/
def ofInt (n : Int) : Value := .number ⟨n < 0, Nat.toDigits 10 n.natAbs, [], none⟩

end Value

end Admittance.Json
