import Admittance.Json.Number
import Admittance.Text.Quoted

/-!
# Why a text is refused

A text can fail to be JSON, or it can be JSON of another shape than the one asked for.  The
second kind of failure has a cause, and every cause has one wording, `Cause.message`.
-/

namespace Admittance.Json

/-- What stood where something else was expected. -/
inductive Found
  | null
  | boolean (b : Bool)
  | integer (n : Int)
  | fraction (bits : UInt64)
  | string (s : String)
  | sequence
  | map
  deriving DecidableEq, Repr

/-- The wording of what was found. -/
def Found.text : Found → String
  | .null => "null"
  | .boolean b => "boolean `" ++ (if b then "true" else "false") ++ "`"
  | .integer n => "integer `" ++ toString n ++ "`"
  | .fraction bits => "floating point `" ++ Decimal.float64Text bits ++ "`"
  | .string s => "string " ++ Text.quoted s
  | .sequence => "sequence"
  | .map => "map"

/-- A number as something that was found. -/
def Number.found : Number → Found
  | .natural n => .integer n
  | .negative n => .integer n
  | .fraction bits => .fraction bits

/-- Why a JSON text does not have the shape that was asked for. -/
inductive Cause
  | missingField (name : String)
  | duplicateField (name : String)
  | unknownField (name : String) (known : List String)
  | unknownVariant (name : String) (known : List String)
  | invalidType (found : Found) (expected : String)
  | invalidValue (n : Int) (expected : String)
  | invalidLength (length : Nat) (expected : String)
  | durationOverflow
  deriving DecidableEq, Repr

/-- A name in grave accents. -/
def ticked (name : String) : String := "`" ++ name ++ "`"

/-- The wording of a choice between names. -/
def oneOf : List String → String
  | [] => "nothing"
  | [a] => ticked a
  | [a, b] => ticked a ++ " or " ++ ticked b
  | names => "one of " ++ ", ".intercalate (names.map ticked)

/-- The wording of a cause. -/
def Cause.message : Cause → String
  | .missingField name => "missing field " ++ ticked name
  | .duplicateField name => "duplicate field " ++ ticked name
  | .unknownField name known => "unknown field " ++ ticked name ++ ", expected " ++ oneOf known
  | .unknownVariant name known => "unknown variant " ++ ticked name ++ ", expected " ++ oneOf known
  | .invalidType found expected => "invalid type: " ++ found.text ++ ", expected " ++ expected
  | .invalidValue n expected =>
    "invalid value: " ++ (Found.integer n).text ++ ", expected " ++ expected
  | .invalidLength length expected =>
    "invalid length " ++ toString length ++ ", expected " ++ expected
  | .durationOverflow => "overflow deserializing Duration"

/-- Why a text is refused. -/
inductive Failure
  | fault (f : Fault)
  | data (cause : Cause)
  deriving DecidableEq, Repr

end Admittance.Json
