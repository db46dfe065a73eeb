import Admittance.Json.Printer
import Admittance.Message.Wire
import Admittance.Time

/-!
# Configuration

A configuration says how long a session may be idle, how often idle sessions are looked for, how
far the first look may be put off by chance, and whether the end of a conference ends its
sessions at once.  `Config.validated` raises an interval that is too short and caps a jitter that
exceeds the interval; each correction gives a warning.
-/

namespace Admittance

/-- How sessions expire. -/
structure Config where
  /-- How long a session may be idle. -/
  lifetime : Duration
  /-- How often expired sessions are removed. -/
  sweepInterval : Duration
  /-- Whether the end of a conference removes its sessions. -/
  destroyOnConferenceEnd : Bool
  /-- The longest delay of the first sweep. -/
  sweepJitter : Duration
  deriving DecidableEq

namespace Config

/-- The configuration of an empty document. -/
def standard : Config where
  lifetime := .ofSeconds (24 * 60 * 60)
  sweepInterval := .ofSeconds 10
  destroyOnConferenceEnd := false
  sweepJitter := .ofMillis 500

/-- The shortest sweep interval. -/
def minSweepInterval : Duration := .ofMillis 10

/-- A correction of a configuration. -/
inductive Correction
  /-- The interval was below the minimum. -/
  | intervalRaised (interval min : Duration)
  /-- The jitter was longer than the interval. -/
  | jitterCapped (jitter interval : Duration)
  deriving DecidableEq

/-- The configuration with its interval raised to the minimum. -/
def raiseInterval (c : Config) : Config × List Correction :=
  if c.sweepInterval < minSweepInterval then
    ({ c with sweepInterval := minSweepInterval },
      [.intervalRaised c.sweepInterval minSweepInterval])
  else (c, [])

/-- The configuration with its jitter capped by its interval. -/
def capJitter (c : Config) : Config × List Correction :=
  if c.sweepInterval < c.sweepJitter then
    ({ c with sweepJitter := c.sweepInterval }, [.jitterCapped c.sweepJitter c.sweepInterval])
  else (c, [])

/-- A configuration that is safe to use, and what had to be corrected. -/
def validate (c : Config) : Config × List Correction :=
  let (raised, first) := c.raiseInterval
  let (capped, second) := raised.capJitter
  (capped, first ++ second)

/-- A configuration that is safe to use. -/
def validated (c : Config) : Config := c.validate.1

/-- The correction leaves the lifetime as it is. -/
@[simp] theorem lifetime_validated (c : Config) : c.validated.lifetime = c.lifetime := by
  unfold validated validate raiseInterval capJitter
  dsimp only
  split <;> split <;> rfl

/-- The interval is the one asked for, and no shorter than the shortest one. -/
theorem sweepInterval_validated (c : Config) :
    c.validated.sweepInterval.nanos = max c.sweepInterval.nanos minSweepInterval.nanos := by
  have hcapped : c.validated.sweepInterval = c.raiseInterval.1.sweepInterval := by
    unfold validated validate capJitter
    dsimp only
    split <;> rfl
  rw [hcapped]
  unfold raiseInterval
  split
  · rename_i hshort
    exact (Nat.max_eq_right (Nat.le_of_lt hshort)).symm
  · rename_i hlong
    exact (Nat.max_eq_left (Nat.le_of_not_lt hlong)).symm

/-- The jitter is the one asked for, and no longer than the interval. -/
theorem sweepJitter_validated (c : Config) :
    c.validated.sweepJitter.nanos = min c.sweepJitter.nanos c.validated.sweepInterval.nanos := by
  have hjitter : c.raiseInterval.1.sweepJitter = c.sweepJitter := by
    unfold raiseInterval
    split <;> rfl
  unfold validated validate
  dsimp only
  rw [← hjitter]
  unfold capJitter
  split
  · rename_i hlong
    exact (Nat.min_eq_right (Nat.le_of_lt hlong)).symm
  · rename_i hshort
    exact (Nat.min_eq_left (Nat.le_of_not_lt hshort)).symm

end Config

/-! ## Configurations as JSON texts -/

open Json (Reader Record required readNatural printObject)

/-- What is known of a duration while it is read. -/
structure Duration.Draft where
  seconds : Option Nat
  nanos : Option Nat

/-- How a duration is read. -/
def Duration.record : Record Duration.Draft Duration where
  title := "struct Duration"
  arrayTitle := "struct Duration"
  strict := true
  blank := ⟨none, none⟩
  fields := [
    .ofReader "secs" (·.seconds) (fun d v => { d with seconds := some v })
      (readNatural 64 "u64") none,
    .ofReader "nanos" (·.nanos) (fun d v => { d with nanos := some v })
      (readNatural 32 "u32") none]
  finish d := do
    let seconds ← required "secs" d.seconds
    let nanos ← required "nanos" d.nanos
    match Duration.ofParts? seconds nanos with
    | some duration => .ok duration
    | none => .error .durationOverflow

instance : Wire Duration where
  read := Duration.record.read
  print d := printObject
    [("secs", Json.printNatural d.seconds), ("nanos", Json.printNatural d.subsecond)]

/-- What is known of a configuration while it is read. -/
structure Config.Draft where
  lifetime : Option Duration
  sweepInterval : Option Duration
  destroyOnConferenceEnd : Option Bool
  sweepJitter : Option Duration

/-- How a configuration is read; every field has a default. -/
def Config.record : Record Config.Draft Config where
  title := "struct SessionConfig"
  arrayTitle := "struct SessionConfig with 4 elements"
  strict := false
  blank := ⟨none, none, none, none⟩
  fields := [
    .ofReader "lifetime" (·.lifetime) (fun d v => { d with lifetime := some v })
      Duration.record.read (some standard.lifetime),
    .ofReader "sweep_interval" (·.sweepInterval) (fun d v => { d with sweepInterval := some v })
      Duration.record.read (some standard.sweepInterval),
    .ofReader "destroy_on_conference_end" (·.destroyOnConferenceEnd)
      (fun d v => { d with destroyOnConferenceEnd := some v })
      Json.readBool (some standard.destroyOnConferenceEnd),
    .ofReader "sweep_jitter" (·.sweepJitter) (fun d v => { d with sweepJitter := some v })
      Duration.record.read (some standard.sweepJitter)]
  finish d := return {
    lifetime := d.lifetime.getD standard.lifetime
    sweepInterval := d.sweepInterval.getD standard.sweepInterval
    destroyOnConferenceEnd := d.destroyOnConferenceEnd.getD standard.destroyOnConferenceEnd
    sweepJitter := d.sweepJitter.getD standard.sweepJitter }

instance : Wire Config where
  read := Config.record.read
  print c := printObject [
    ("lifetime", Wire.print c.lifetime),
    ("sweep_interval", Wire.print c.sweepInterval),
    ("destroy_on_conference_end", Json.printBool c.destroyOnConferenceEnd),
    ("sweep_jitter", Wire.print c.sweepJitter)]

end Admittance
