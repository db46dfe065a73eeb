import Admittance.Conference
import Admittance.Sweeper

/-!
# Starting and stopping

A running authority owns one sweeper and, where the host has a source of conference ends, one
hook.  Starting an authority that runs already changes nothing, and neither does stopping one
that does not.  A stop takes the tasks out of the authority first and then waits for them one
after the other, so that a start may come in between.
-/

namespace Admittance

/-- The background tasks of a running authority. -/
structure Tasks where
  sweeper : Sweeper
  hook : Option Hook
  deriving DecidableEq

/-- How far a stop has come. -/
inductive Stop
  /-- It told the sweeper to stop and waits for its end. -/
  | sweeper (sweeper : Sweeper) (hook : Option Hook)
  /-- It told the hook to stop and waits for its end. -/
  | hook (hook : Option Hook)
  | finished
  deriving DecidableEq

namespace Service

variable {η : Type}

/-- Starts an authority that has the tasks `running`, if any.  The source is the channel to
subscribe to, if there is one. -/
def start (a : Authority η) (chance : Nat → Nat) (source : Option Channel)
    (running : Option Tasks) (s : State η) : Option Tasks × State η :=
  match running with
  | some tasks => (some tasks, s.log .alreadyRunning)
  | none =>
    let (sweeper, records) := Sweeper.spawn a.config chance
    let started := Log.Record.authorityStarted a.config.lifetime a.config.sweepInterval
      a.config.destroyOnConferenceEnd
    (some ⟨sweeper, source.map Hook.subscribe⟩,
      s.note (records.map .record ++ [.record started]))

/-- A stop takes the tasks out of the authority. -/
def beginStop (running : Option Tasks) : Option Stop :=
  running.map fun tasks => .sweeper tasks.sweeper tasks.hook

/-- The stopping sweeper runs on; the stop goes on to the hook when the sweeper is over. -/
def awaitSweeper (sweeper : Sweeper) (hook : Option Hook) (s : State η) : Stop × State η :=
  let ended := sweeper.shutDown s.now
  if ended.isFinished then (.hook hook, s.note (ended.farewell.map .record))
  else (.sweeper ended hook, s)

/-- The stopping hook runs on; the stop is finished when the hook is over. -/
def awaitHook (hook : Option Hook) (s : State η) : Stop × State η :=
  let s := match hook with
    | some hook => (hook.shutDown s).2
    | none => s
  (.finished, s.log .authorityStopped)

/-- One wait of a stop. -/
def continueStop (stop : Stop) (s : State η) : Stop × State η :=
  match stop with
  | .sweeper sweeper hook => awaitSweeper sweeper hook s
  | .hook hook => awaitHook hook s
  | .finished => (.finished, s)

/-- A stop that nobody interferes with, of tasks of which none waits for the registry. -/
def stop (running : Option Tasks) (s : State η) : State η :=
  match beginStop running with
  | none => s
  | some stop =>
    let (stop, s) := continueStop stop s
    (continueStop stop s).2

end Service

end Admittance
