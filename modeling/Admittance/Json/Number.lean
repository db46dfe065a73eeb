import Admittance.Json.Token
import Admittance.Decimal.Shortest

/-!
# The value of a number

An integer that fits a 64-bit word is kept as an integer.  Every other number becomes a binary64
fraction: its leading digits are gathered in a 64-bit significand, the digits that no longer fit
only move the exponent, and the significand is scaled by an exact or nearest power of ten.  A
number beyond the largest fraction is malformed.
-/

namespace Admittance.Json

/-- The value of a number: an integer of 64 bits with or without sign, or the word of a binary64
fraction. -/
inductive Number
  | natural (n : Nat)
  | negative (n : Int)
  | fraction (bits : UInt64)
  deriving DecidableEq, Repr

/-- The largest 64-bit word. -/
def maxWord : Nat := 0xffffffffffffffff

/-- The value of a decimal digit. -/
def digitValue (c : Char) : Nat := c.toNat - '0'.toNat

/-- Digits gathered into a significand; the flag says that a digit no longer fitted, after which
all further digits count as `dropped`. -/
structure Gathered where
  significand : Nat
  taken : Nat
  dropped : Nat
  full : Bool

/-- Takes one more digit. -/
def Gathered.push (g : Gathered) (c : Char) : Gathered :=
  let next := g.significand * 10 + digitValue c
  if g.full || maxWord < next then ⟨g.significand, g.taken, g.dropped + 1, true⟩
  else ⟨next, g.taken + 1, g.dropped, false⟩

/-- Gathers digits onto a significand. -/
def gather (significand : Nat) (digits : List Char) : Gathered :=
  digits.foldl Gathered.push ⟨significand, 0, 0, false⟩

/-- The sign bit of a binary64 word. -/
def signBit : UInt64 := 0x8000000000000000

/-- The word of a fraction with the given sign. -/
def signedBits (negative : Bool) (x : Float) : UInt64 :=
  if negative then x.toBits ^^^ signBit else x.toBits

/-- `x * 10 ^ exponent`, in steps of at most `10 ^ 308`; there is none beyond the largest
fraction. -/
def scaleByTen : Nat → Float → Int → Option Float
  | 0, _, _ => some 0
  | steps + 1, x, exponent =>
    if exponent.natAbs ≤ 308 then
      let power := Float.ofScientific 1 false exponent.natAbs
      if 0 ≤ exponent then
        let y := x * power
        if y.isInf then none else some y
      else some (x / power)
    else if x == 0 then some x
    else if 0 ≤ exponent then none
    else scaleByTen steps (x / Float.ofScientific 1 false 308) (exponent + 308)

/-- The largest exponent that is read digit by digit. -/
def maxExponent : Nat := 0x7fffffff

/-- The value of a written exponent, if it is small enough to be read. -/
def exponentValue? (digits : List Char) : Option Nat :=
  let value := digits.foldl (fun n c => n * 10 + digitValue c) 0
  if value ≤ maxExponent then some value else none

/-- Keeps an exponent within 32 bits. -/
def clampExponent (e : Int) : Int := max (-0x80000000) (min 0x7fffffff e)

/-- A fraction of the given significand and exponent. -/
def fractionOf (negative : Bool) (significand : Nat) (exponent : Int) : Except Fault Number :=
  let steps := exponent.natAbs / 308 + 2
  match scaleByTen steps significand.toUInt64.toFloat exponent with
  | some x => .ok (.fraction (signedBits negative x))
  | none => .error .malformed

/-- The significand and the exponent of the digits around the point. -/
def Numeral.parts (n : Numeral) : Nat × Int :=
  let whole := gather 0 n.whole
  let fraction := gather whole.significand n.fraction
  (fraction.significand, (whole.dropped : Int) - fraction.taken)

/-- The fraction that a number with a point, an exponent or too many digits stands for. -/
def Numeral.asFraction (n : Numeral) : Except Fault Number :=
  let (significand, exponent) := n.parts
  match n.exponent with
  | none => fractionOf n.negative significand exponent
  | some (down, digits) =>
    match exponentValue? digits with
    | some value =>
      let shift : Int := if down then -value else value
      fractionOf n.negative significand (clampExponent (exponent + shift))
    | none =>
      if significand ≠ 0 ∧ !down then .error .malformed
      else .ok (.fraction (signedBits n.negative 0))

/-- The value of a number. -/
def Numeral.value (n : Numeral) : Except Fault Number :=
  let whole := gather 0 n.whole
  if n.fraction ≠ [] ∨ n.exponent ≠ none ∨ whole.full then n.asFraction
  else if !n.negative then .ok (.natural whole.significand)
  else if whole.significand = 0 ∨ 0x8000000000000000 < whole.significand then
    .ok (.fraction (signedBits true whole.significand.toUInt64.toFloat))
  else .ok (.negative (-(whole.significand : Int)))

end Admittance.Json
