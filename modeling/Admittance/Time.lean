/-!
# Durations and instants

Time is counted in whole nanoseconds.  A `Duration` is a span whose whole seconds fit an
unsigned 64-bit word, which is what a configuration can express.  An `Instant` is a reading of
the host's clock; it is an integer, because a sweep may be asked about a moment before the
clock's own zero.  A clock holds its seconds in a signed 64-bit word, so moving an instant
forward can fail: `Instant.after?` says when.
-/

namespace Admittance

/-- The nanoseconds of one second. -/
def nanosPerSecond : Nat := 1000000000

/-- The nanoseconds of one millisecond. -/
def nanosPerMilli : Nat := 1000000

/-- How many values an unsigned 64-bit word has. -/
def wordCount : Nat := 0x10000000000000000

/-- A span of time whose whole seconds fit an unsigned 64-bit word. -/
structure Duration where
  /-- The whole span in nanoseconds. -/
  nanos : Nat
  inRange : nanos < wordCount * nanosPerSecond
  deriving DecidableEq

namespace Duration

@[ext] theorem ext {a b : Duration} (h : a.nanos = b.nanos) : a = b := by
  cases a; cases b; cases h; rfl

instance : LT Duration := ⟨fun a b => a.nanos < b.nanos⟩

instance : LE Duration := ⟨fun a b => a.nanos ≤ b.nanos⟩

instance (a b : Duration) : Decidable (a < b) := inferInstanceAs (Decidable (a.nanos < b.nanos))

instance (a b : Duration) : Decidable (a ≤ b) := inferInstanceAs (Decidable (a.nanos ≤ b.nanos))

/-- The empty span. -/
def zero : Duration := ⟨0, by decide⟩

/-- The span of `n` seconds. -/
def ofSeconds (n : Nat) (h : n < wordCount := by decide) : Duration :=
  ⟨n * nanosPerSecond, Nat.mul_lt_mul_of_pos_right h (by decide)⟩

/-- The span of `n` milliseconds. -/
def ofMillis (n : Nat) (h : n < wordCount := by decide) : Duration :=
  ⟨n * nanosPerMilli, Nat.lt_of_lt_of_le (Nat.mul_lt_mul_of_pos_right h (by decide)) (by decide)⟩

/-- The whole seconds of a span. -/
def seconds (d : Duration) : Nat := d.nanos / nanosPerSecond

/-- The nanoseconds of a span beyond its whole seconds. -/
def subsecond (d : Duration) : Nat := d.nanos % nanosPerSecond

/-- The span of `seconds` and `nanos` together; a second or more in `nanos` carries.  There is
none when the whole seconds no longer fit their word. -/
def ofParts? (seconds nanos : Nat) : Option Duration :=
  if h : seconds * nanosPerSecond + nanos < wordCount * nanosPerSecond then
    some ⟨seconds * nanosPerSecond + nanos, h⟩
  else
    none

/-- A span is put together again from its two parts. -/
theorem ofParts?_seconds_subsecond (d : Duration) :
    ofParts? d.seconds d.subsecond = some d := by
  have h : d.seconds * nanosPerSecond + d.subsecond = d.nanos := by
    simpa [seconds, subsecond, Nat.mul_comm] using Nat.div_add_mod d.nanos nanosPerSecond
  unfold ofParts?
  rw [dif_pos (by rw [h]; exact d.inRange)]
  exact congrArg some (Duration.ext h)

/-- The seconds of a duration fit a word. -/
theorem seconds_lt (d : Duration) : d.seconds < wordCount :=
  Nat.div_lt_of_lt_mul (by simpa [Nat.mul_comm] using d.inRange)

/-- What is left of the nanoseconds is less than a second. -/
theorem subsecond_lt (d : Duration) : d.subsecond < nanosPerSecond :=
  Nat.mod_lt _ (by decide)

/-! ## Text for people -/

/-- The digits after a decimal point: `part` out of `10 ^ places`, without trailing zeros. -/
def fractionDigits (places part : Nat) : List Char :=
  let digits := Nat.toDigits 10 part
  let padded := List.replicate (places - digits.length) '0' ++ digits
  (padded.reverse.dropWhile (· = '0')).reverse

/-- `amount / 10 ^ places` in decimal with a unit; a zero fraction is left out. -/
def withUnit (places amount : Nat) (unit : String) : String :=
  let whole := amount / Nat.pow 10 places
  match amount % Nat.pow 10 places with
  | 0 => toString whole ++ unit
  | part => toString whole ++ "." ++ String.ofList (fractionDigits places part) ++ unit

/-- A number of nanoseconds in the largest unit of `s`, `ms`, `µs` and `ns` that it fills. -/
def nanosText (n : Nat) : String :=
  if nanosPerSecond ≤ n then withUnit 9 n "s"
  else if nanosPerMilli ≤ n then withUnit 6 n "ms"
  else if 1000 ≤ n then withUnit 3 n "µs"
  else withUnit 0 n "ns"

/-- A span in the largest unit that it fills, such as `9.5ms`. -/
def text (d : Duration) : String := nanosText d.nanos

end Duration

/-- A reading of the host's clock in nanoseconds since the clock's zero. -/
abbrev Instant := Int

namespace Instant

/-- The first instant that a clock with 64-bit signed seconds can no longer hold. -/
def limit : Instant := 0x8000000000000000 * nanosPerSecond

/-- The nanoseconds from `earlier` to `later`, and none of them when `later` comes first. -/
def since (later earlier : Instant) : Nat := (later - earlier).toNat

/-- The instant `nanos` after `t`, if a clock can hold it. -/
def after? (t : Instant) (nanos : Nat) : Option Instant :=
  if t + nanos < limit then some (t + nanos) else none

/-- The first whole millisecond, counted from `origin`, that is not before `t`.  Timers go off
on whole milliseconds of the clock that runs them. -/
def roundUpToMilli (origin t : Instant) : Instant :=
  origin + (((t - origin).toNat + (nanosPerMilli - 1)) / nanosPerMilli * nanosPerMilli : Nat)

end Instant

end Admittance
