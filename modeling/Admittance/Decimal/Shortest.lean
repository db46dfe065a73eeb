/-!
# The shortest decimal of a binary fraction

A finite binary64 number is `m * 2 ^ q`.  The reals that round to it form an interval around it,
whose ends belong to it exactly when `m` is even.  Among the decimals in that interval this file
picks one with the fewest digits, and of those the nearest to the number itself.  For a given
number of digits only the two neighbours of the number on that decimal grid can be nearest, so
seventeen grids and two candidates on each are enough.

All arithmetic is on natural numbers.
-/

namespace Admittance.Decimal

/-- A positive binary fraction `significand * 2 ^ exponent`, and whether the number below it is
half as far away as the number above it. -/
structure Binary where
  significand : Nat
  exponent : Int
  lowerIsCloser : Bool
  deriving DecidableEq

/-- A decimal `digits * 10 ^ exponent`. -/
structure Scientific where
  digits : Nat
  exponent : Int
  deriving DecidableEq

/-- A ratio of natural numbers; the denominator is positive in every use. -/
structure Ratio where
  num : Nat
  den : Nat

/-- `n * base ^ e` as a ratio. -/
def scaled (n base : Nat) (e : Int) : Ratio :=
  if 0 ≤ e then ⟨n * Nat.pow base e.toNat, 1⟩ else ⟨n, Nat.pow base (-e).toNat⟩

/-- Where the leading digit of a positive ratio stands: the least `k` with `r < 10 ^ k`. -/
def magnitude (r : Ratio) : Int :=
  if r.den ≤ r.num then
    ((Nat.toDigits 10 (r.num / r.den)).length : Int)
  else
    let zeros := (Nat.toDigits 10 (r.den / r.num)).length - 1
    if r.den ≤ r.num * Nat.pow 10 zeros then 1 - (zeros : Int) else -(zeros : Int)

namespace Binary

/-- The candidate `c * 10 ^ e` lies among the reals that round to the number. -/
def admits (b : Binary) (c : Nat) (e : Int) : Bool :=
  let point := scaled c 10 e
  let low := scaled (if b.lowerIsCloser then 4 * b.significand - 1 else 4 * b.significand - 2) 2
    (b.exponent - 2)
  let high := scaled (4 * b.significand + 2) 2 (b.exponent - 2)
  if b.significand % 2 = 0 then
    low.num * point.den ≤ point.num * low.den && point.num * high.den ≤ high.num * point.den
  else
    low.num * point.den < point.num * low.den && point.num * high.den < high.num * point.den

/-- The candidates of the grid `10 ^ e`: the number's lower neighbour on it, that neighbour's
successor, and whether the successor is strictly nearer. -/
def neighbours (b : Binary) (e : Int) : Nat × Nat × Bool :=
  let value := scaled b.significand 2 b.exponent
  let unit := scaled 1 10 e
  let num := value.num * unit.den
  let den := value.den * unit.num
  let below := num / den
  let twice := 2 * (num % den)
  (below, below + 1, den < twice || (twice = den && below % 2 = 1))

/-- The nearest decimal with at most `n` digits that still rounds to the number, where the
number's leading digit stands at `top`.  A carry past `n` nines leaves the single digit one. -/
def withDigits? (b : Binary) (top : Int) (n : Nat) : Option Scientific :=
  let e := top - n
  let (below, above, preferAbove) := b.neighbours e
  let decimal (c : Nat) : Scientific := if c = Nat.pow 10 n then ⟨1, top⟩ else ⟨c, e⟩
  let first := if preferAbove then above else below
  let second := if preferAbove then below else above
  if b.admits first e then some (decimal first)
  else if b.admits second e then some (decimal second)
  else none

/-- The shortest decimal that rounds to the number. -/
def shortest (b : Binary) : Scientific :=
  let top := magnitude (scaled b.significand 2 b.exponent)
  (((List.range 17).map (· + 1)).findSome? (b.withDigits? top)).getD ⟨0, 0⟩

end Binary

/-! ## Binary64 words -/

/-- What a binary64 word stands for; the flag says whether the sign bit is set. -/
inductive Float64
  | zero (negative : Bool)
  | finite (negative : Bool) (value : Binary)
  | notFinite
  deriving DecidableEq

/-- Reads a binary64 word. -/
def Float64.ofBits (bits : UInt64) : Float64 :=
  let word := bits.toNat
  let negative := decide (0x8000000000000000 ≤ word)
  let exponent := word / Nat.pow 2 52 % Nat.pow 2 11
  let fraction := word % Nat.pow 2 52
  if exponent = 2047 then .notFinite
  else if exponent = 0 then
    if fraction = 0 then .zero negative else .finite negative ⟨fraction, -1074, false⟩
  else
    .finite negative
      ⟨Nat.pow 2 52 + fraction, Int.ofNat exponent - 1075, fraction = 0 && 1 < exponent⟩

/-! ## Text -/

/-- A positive decimal as text.  It is positional while the point stands at most sixteen digits
after the first digit and fewer than five zeros follow it; otherwise it has an exponent, with its
sign. -/
def Scientific.text (s : Scientific) : String :=
  let digits := Nat.toDigits 10 s.digits
  let length : Int := digits.length
  let point := length + s.exponent
  if 0 ≤ s.exponent && point ≤ 16 then
    String.ofList (digits ++ List.replicate s.exponent.toNat '0') ++ ".0"
  else if 0 < point && point ≤ 16 then
    String.ofList (digits.take point.toNat) ++ "." ++ String.ofList (digits.drop point.toNat)
  else if -5 < point && point ≤ 0 then
    "0." ++ String.ofList (List.replicate (-point).toNat '0' ++ digits)
  else
    let mantissa := match digits with
      | [] => ""
      | [d] => String.ofList [d]
      | d :: rest => String.ofList (d :: '.' :: rest)
    mantissa ++ (if 0 < point then "e+" else "e") ++ toString (point - 1)

/-- A binary64 word as text: the shortest decimal that reads back as it. -/
def float64Text (bits : UInt64) : String :=
  match Float64.ofBits bits with
  | .zero negative => if negative then "-0.0" else "0.0"
  | .finite negative value => (if negative then "-" else "") ++ value.shortest.text
  | .notFinite => "null"

end Admittance.Decimal
