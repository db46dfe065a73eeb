import Admittance.Authority

/-!
# The sweeper

A sweeper is a background task that removes expired sessions at regular ticks.  Its first tick is
due one interval and a random jitter after it starts to run.  A tick is taken when the task is
free; the sweep itself happens when the task gets the registry, with the clock as it stands then.
A tick that is taken on time leaves the next one an interval after it; one that is taken more
than five milliseconds late leaves the next one at the next point of the same grid, so missed
ticks are skipped rather than made up for.

After the first tick, ticks are never more than thirty years apart, however long the interval is.
A deadline that no clock can hold makes the task panic, as does a sink that breaks down.
-/

namespace Admittance

/-- Where a sweeper stands. -/
inductive Sweeper.Phase
  /-- It has not run yet. -/
  | spawned (jitter : Duration)
  /-- It waits for its next tick. -/
  | asleep (due : Instant)
  /-- It took a tick and waits for the registry; its next tick is set already. -/
  | awake (next : Instant)
  | stopped
  | panicked
  deriving DecidableEq

/-- A background task that removes expired sessions. -/
structure Sweeper where
  lifetime : Duration
  interval : Duration
  phase : Sweeper.Phase
  deriving DecidableEq

namespace Sweeper

/-- How late a tick may be taken and still count as on time. -/
def tolerance : Nat := 5 * nanosPerMilli

/-- The nanoseconds of one microsecond. -/
def nanosPerMicro : Nat := 1000

/-- The largest jitter in microseconds. -/
def jitterLimit (c : Config) : Nat := min (c.sweepJitter.nanos / nanosPerMicro) Json.maxWord

/-- The jitter that `chance` picks: a number of microseconds up to the limit. -/
def pickJitter (c : Config) (chance : Nat → Nat) : Duration :=
  ⟨chance (jitterLimit c) % (jitterLimit c + 1) * nanosPerMicro, by
    have hle : chance (jitterLimit c) % (jitterLimit c + 1) ≤ c.sweepJitter.nanos / nanosPerMicro :=
      Nat.le_trans (Nat.lt_succ_iff.1 (Nat.mod_lt _ (Nat.succ_pos _))) (Nat.min_le_left _ _)
    exact Nat.lt_of_le_of_lt
      (Nat.le_trans (Nat.mul_le_mul_right _ hle) (Nat.div_mul_le_self _ _)) c.sweepJitter.inRange⟩

/-- No jitter is longer than was asked for. -/
theorem pickJitter_le (c : Config) (chance : Nat → Nat) :
    (pickJitter c chance).nanos ≤ c.sweepJitter.nanos := by
  have hle : chance (jitterLimit c) % (jitterLimit c + 1) ≤ c.sweepJitter.nanos / nanosPerMicro :=
    Nat.le_trans (Nat.lt_succ_iff.1 (Nat.mod_lt _ (Nat.succ_pos _))) (Nat.min_le_left _ _)
  exact Nat.le_trans (Nat.mul_le_mul_right _ hle) (Nat.div_mul_le_self _ _)

/-- A new sweeper for a configuration as it was given, and what it logs. -/
def spawn (config : Config) (chance : Nat → Nat) : Sweeper × List Log.Record :=
  let (valid, corrections) := config.validate
  let jitter := pickJitter valid chance
  (⟨valid.lifetime, valid.sweepInterval, .spawned jitter⟩,
    corrections.map .correction ++ [.sweeperStarted valid.sweepInterval valid.lifetime jitter])

/-- The first deadline of a task that starts to run at `now`. -/
def firstDeadline? (now : Instant) (interval jitter : Duration) : Option Instant := do
  (← now.after? interval.nanos).after? jitter.nanos

/-- A sweeper runs for the first time. -/
def begin (w : Sweeper) (now : Instant) : Sweeper :=
  match w.phase with
  | .spawned jitter =>
    match firstDeadline? now w.interval jitter with
    | some due => { w with phase := .asleep due }
    | none => { w with phase := .panicked }
  | _ => w

/-- The longest time between two ticks in nanoseconds: thirty years. -/
def longestPeriod : Nat := 86400 * 365 * 30 * nanosPerSecond

/-- The time between two ticks in nanoseconds. -/
def period (interval : Duration) : Nat := min interval.nanos longestPeriod

/-- The tick after one that was due at `due` and is taken at `now`. -/
def nextDue? (interval : Duration) (due now : Instant) : Option Instant :=
  if now ≤ due + tolerance then
    some ((due.after? (period interval)).getD (now + (longestPeriod : Nat)))
  else
    (now.after? (period interval)).map fun t => t - ((now - due) % (period interval : Int))

/-- The deadline that a sweeper waits for. -/
def due? (w : Sweeper) : Option Instant :=
  match w.phase with
  | .asleep due => some due
  | _ => none

/-- Whether a tick can be taken. -/
def isDue (w : Sweeper) (now : Instant) : Bool :=
  match w.due? with
  | some due => due ≤ now
  | none => false

/-- Takes a tick that is due. -/
def tick (w : Sweeper) (now : Instant) : Sweeper :=
  match w.phase with
  | .asleep due =>
    if due ≤ now then
      match nextDue? w.interval due now with
      | some next => { w with phase := .awake next }
      | none => { w with phase := .panicked }
    else w
  | _ => w

/-- A sweeper that took a tick gets the registry. -/
def sweep {η : Type} (w : Sweeper) (s : State η) : Sweeper × State η :=
  match w.phase with
  | .awake next =>
    let removal := s.registry.sweep s.now w.lifetime
    let swept := Authority.afterOperation s removal
    if removal.value.completed then
      let count := removal.value.tokens.length
      ({ w with phase := .asleep next },
        if count = 0 then swept else swept.log (.sessionsSwept count))
    else ({ w with phase := .panicked }, swept)
  | _ => (w, s)

/-- Whether the task is over. -/
def isFinished (w : Sweeper) : Bool :=
  w.phase = .stopped || w.phase = .panicked

/-- A sweeper that was told to stop runs on: it ends unless it still waits for the registry.  A
task that is over already stays as it is. -/
def shutDown (w : Sweeper) (now : Instant) : Sweeper :=
  match (w.begin now).phase with
  | .asleep _ => { w with phase := .stopped }
  | phase => { w with phase := phase }

/-- What the end of a sweeper that was told to stop logs. -/
def farewell (w : Sweeper) : List Log.Record :=
  (if w.phase = .panicked then [.sweeperPanicked] else []) ++ [.sweeperStopped]

end Sweeper

end Admittance
