import Admittance.Json.Reader

/-!
# Reading records

A record is written as an object of named fields, or as an array of its fields in order.  In an
object the fields may come in any order, unknown fields are skipped (or refused, for a strict
record) and a field seen twice is an error.  In an array a missing trailing field takes its
default where it has one.

While a record is read, what is known of it so far is kept in a draft.
-/

namespace Admittance.Json

/-- A named field of a record, and how it fills the draft. -/
structure Field (δ : Type) where
  name : String
  /-- Whether the draft already has the field. -/
  isSet : δ → Bool
  /-- Reads the field's value into the draft. -/
  read : δ → Reader δ
  /-- The draft with the field's default, where the field has one. -/
  withDefault : δ → Option δ

/-- The field that a reader fills by way of a slot of the draft; `fallback` is its default. -/
def Field.ofReader {δ β : Type} (name : String) (get : δ → Option β) (set : δ → β → δ)
    (reader : Reader β) (fallback : Option β) : Field δ where
  name := name
  isSet draft := (get draft).isSome
  read draft ts := (reader ts).map fun p => (set draft p.1, p.2)
  withDefault draft := fallback.map (set draft)

/-- The value of a slot that has to be filled. -/
def required {β : Type} (name : String) (slot : Option β) : Except Cause β :=
  match slot with
  | some value => .ok value
  | none => .error (.missingField name)

/-- How a record of type `α` is read by way of a draft of type `δ`. -/
structure Record (δ α : Type) where
  /-- The record's name in messages. -/
  title : String
  /-- The record's name in messages about arrays of the wrong length. -/
  arrayTitle : String
  fields : List (Field δ)
  /-- Whether unknown fields are refused. -/
  strict : Bool
  /-- The draft that knows nothing yet. -/
  blank : δ
  /-- The record of a draft, or what the draft still lacks. -/
  finish : δ → Except Cause α

namespace Record

variable {δ α : Type}

/-- The field of a given name. -/
def field? (r : Record δ α) (name : String) : Option (Field δ) :=
  r.fields.find? (·.name = name)

/-- Reads the value of a field that the draft does not have yet. -/
def readField (f : Field δ) (draft : δ) (ts : List Token) :
    Except Failure (δ × List Token) := do
  if f.isSet draft then .error (.data (.duplicateField f.name))
  else f.read draft (← expect .colon ts)

/-- Passes over a field that the record does not have. -/
def readUnknown (r : Record δ α) (name : String) (draft : δ) (ts : List Token) :
    Except Failure (δ × List Token) := do
  if r.strict then .error (.data (.unknownField name (r.fields.map (·.name))))
  else return (draft, ← skipValue (← expect .colon ts))

/-- Reads one entry of an object. -/
def readEntry (r : Record δ α) (draft : δ) (ts : List Token) :
    Except Failure (δ × List Token) := do
  let (name, ts) ← readKey ts
  match r.field? name with
  | some f => readField f draft ts
  | none => r.readUnknown name draft ts

/-- Reads entries of an object up to its end, at most `fuel` of them. -/
def readEntries (r : Record δ α) :
    Nat → Bool → δ → List Token → Except Failure (δ × List Token)
  | 0, _, _, _ => .error (.fault .truncated)
  | fuel + 1, first, draft, ts => do
    match ← nextEntry .closeBrace first ts with
    | none => return (draft, ts)
    | some ts =>
      let (draft, ts) ← r.readEntry draft ts
      r.readEntries fuel false draft ts

/-- Reads the elements of an array into the given fields, the first of which has number
`index`. -/
def readElements (r : Record δ α) :
    List (Field δ) → Nat → Bool → δ → List Token → Except Failure (δ × List Token)
  | [], _, _, draft, ts => .ok (draft, ts)
  | f :: fs, index, first, draft, ts => do
    match ← nextEntry .closeBracket first ts with
    | none =>
      match f.withDefault draft with
      | some draft => r.readElements fs (index + 1) first draft ts
      | none => .error (.data (.invalidLength index r.arrayTitle))
    | some ts =>
      let (draft, ts) ← f.read draft ts
      r.readElements fs (index + 1) false draft ts

/-- The record of a complete draft, behind the token that closes it. -/
def close (r : Record δ α) (closing : Token) (draft : δ) (ts : List Token) :
    Except Failure (α × List Token) :=
  match r.finish draft with
  | .error cause => .error (.data cause)
  | .ok value => return (value, ← expect closing ts)

/-- Reads a record. -/
def read (r : Record δ α) : Reader α
  | .openBrace :: ts => do
    let (draft, ts) ← r.readEntries (ts.length + 1) true r.blank ts
    r.close .closeBrace draft ts
  | .openBracket :: ts => do
    let (draft, ts) ← r.readElements r.fields 0 true r.blank ts
    r.close .closeBracket draft ts
  | ts => mismatch r.title ts

end Record

end Admittance.Json
