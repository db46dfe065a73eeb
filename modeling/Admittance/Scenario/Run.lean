import Admittance.Scenario.Report

/-!
# Running a scenario

A scenario builds one authority on a simulated clock and takes its steps in order.  After each
step the background tasks settle, and what they do then belongs to the step.
-/

namespace Admittance.Scenario

/-- What a scenario starts from. -/
structure Setup where
  config : Config
  script : VerifierScript
  sink : Option Sink
  /-- The capacity of the channel of conference ends, if there is one. -/
  capacity : Option Nat
  /-- The finest level that is reported. -/
  finest : Option Log.Level
  /-- Whether the live sessions are reported after the last step only. -/
  sessionsAtEnd : Bool
  /-- Whether it is reported if the registry was free when the verifier was asked. -/
  watched : Bool

/-- Where a join stands that was begun on its own. -/
inductive BegunJoin
  | underWay (progress : Progress)
  /-- Its request cannot be read. -/
  | unreadable (failure : Json.Failure)

/-- A scenario under way. -/
structure Stage where
  host : Host Cast
  script : VerifierScript
  /-- The joins that were begun on their own, by their names. -/
  joins : List (String × BegunJoin)
  /-- Whether moments depend on a jitter that is drawn by chance. -/
  byChance : Bool

namespace Stage

/-- The middle of the range of a jitter, which is as good as any value that chance may draw. -/
def middle (limit : Nat) : Nat := (limit + 1) / 2

/-- The stage before the first step. -/
def initial (setup : Setup) : Stage :=
  let (valid, corrections) := setup.config.validate
  let authority : Authority Cast := ⟨valid, setup.script.verifier, fun n => .ofFirst (token n),
    Cast.react⟩
  let state := (State.initial Host.origin setup.sink []).note
    ((Authority.built valid corrections).map .record)
  { host := Host.idle authority state (setup.capacity.map Channel.withCapacity) middle
    script := setup.script
    joins := []
    byChance := valid.sweepJitter ≠ Duration.zero }

/-- The stage with another host. -/
def withHost (st : Stage) (host : Host Cast) : Stage := { st with host := host }

/-- The number of tokens drawn so far. -/
def drawn (st : Stage) : Nat := st.host.state.drawn

/-- The result of a call that came as far as it can. -/
def resultOf : Progress → Result
  | .answered answer => .answer answer
  | _ => .done

/-- A look at the text of a token. -/
def shapeOf (token : SessionToken) : Result := .shape token.text.utf8ByteSize token.isLowerHex

/-- Takes a step that may also stand in a race. -/
def takeSingle (st : Stage) : RaceStep → Stage × Result
  | .call call | .direct call =>
    let (host, progress) := st.host.perform (expandCall st.drawn call)
    (st.withHost host, resultOf progress)
  | .tokenShape token => (st, shapeOf (expand st.drawn token))
  | .unreadable failure => (st, .unreadable failure)
  | .unknown => (st, .badStep)

/-- Those who take part in a race. -/
def entrantsOf (drawn : Nat) (steps : List RaceStep) : List Host.Entrant :=
  steps.filterMap fun
    | .call call => some (.call (expandCall drawn call))
    | .direct call => some (.deferred fun drawn => expandCall drawn call)
    | _ => none

/-- The result of the call of a given number in a race. -/
def resultAt (answers : Host.Answers) (number : Nat) : Result :=
  match answers.lookup number with
  | some answer => .answer answer
  | none => .done

/-- The results of a race, given the answers to its calls; the first call that is left has the
given number. -/
def raceResults (drawn : Nat) (answers : Host.Answers) : Nat → List RaceStep → List Result
  | _, [] => []
  | number, .call _ :: steps | number, .direct _ :: steps =>
    resultAt answers number :: raceResults drawn answers (number + 1) steps
  | number, .tokenShape token :: steps =>
    shapeOf (expand drawn token) :: raceResults drawn answers number steps
  | number, .unreadable failure :: steps =>
    .unreadable failure :: raceResults drawn answers number steps
  | number, .unknown :: steps => .badStep :: raceResults drawn answers number steps

/-- Takes a race. -/
def takeRace (st : Stage) (hold : Option Nat) (steps : List RaceStep) : Stage × Result :=
  let (host, answers) := st.host.race hold (entrantsOf st.drawn steps)
  (st.withHost host, .race (raceResults st.drawn answers 0 steps))

/-- Forgets a join. -/
def forget (st : Stage) (id : String) : Stage := { st with joins := st.joins.filter (·.1 ≠ id) }

/-- Keeps a join, in place of any other of its name. -/
def keep (st : Stage) (id : String) (join : BegunJoin) : Stage :=
  { st with joins := (id, join) :: (st.forget id).joins }

/-- Begins a join that may wait at a gate in its verifier. -/
def takeJoinBegin (st : Stage) (id : String) (request : JoinRequest) (requester : PeerAddress) :
    Stage × Result :=
  let call := expandCall st.drawn (.join request requester)
  let (host, progress) :=
    if st.script.waitsAtGate request then st.host.performToVerifier call
    else st.host.perform call
  let parked := match progress with
    | .verifying _ => true
    | _ => false
  ((st.withHost host).keep id (.underWay progress), .parked parked)

/-- Takes one step. -/
def take (st : Stage) : Step → Stage × Result
  | .single step => st.takeSingle step
  | .race hold steps => st.takeRace hold steps
  | .addListener listener act =>
    let state := st.host.state
    let (listeners, added) := state.listeners.add listener
    let cast := Cast.mention state.host listener act
    (st.withHost { st.host with state := { state with listeners := listeners, host := cast } },
      .flag added)
  | .removeListener listener =>
    let state := st.host.state
    let (listeners, removed) := state.listeners.remove listener
    let cast := Cast.mention state.host listener .quiet
    (st.withHost { st.host with state := { state with listeners := listeners, host := cast } },
      .flag removed)
  | .start => (st.withHost st.host.start, .flag true)
  | .stop => (st.withHost st.host.stop, .flag false)
  | .isRunning => (st, .flag st.host.isRunning)
  | .config => (st, .text (Wire.encode st.host.authority.config))
  | .sleep ms => (st.withHost (st.host.sleep ms), .done)
  | .advance ms => (st.withHost (st.host.advance ms), .done)
  | .announce names =>
    if st.host.source.isNone then (st, .noSource)
    else
      let (host, counts) := st.host.announceAll names
      (st.withHost host, .receiverCounts counts)
  | .receivers => (st, .count (st.host.source.map fun _ => st.host.receivers))
  | .replaceSource capacity =>
    if st.host.source.isNone then (st, .noSource)
    else (st.withHost (st.host.replaceSource capacity), .done)
  | .joinBegin id request requester =>
    match request with
    | .error failure => (st.keep id (.unreadable failure), .parked false)
    | .ok request => st.takeJoinBegin id request requester
  | .joinEnd id =>
    match st.joins.lookup id with
    | none => (st, .noSuchJoin)
    | some (.underWay (.verifying context)) =>
      let (host, progress) := st.host.resume context
      ((st.forget id).withHost host, resultOf progress)
    | some (.underWay progress) => (st.forget id, resultOf progress)
    | some (.unreadable failure) => (st.forget id, .unreadable failure)
  | .joinDrop id =>
    match st.joins.lookup id with
    | none => (st, .noSuchJoin)
    | some (.underWay (.verifying _)) => (st.forget id, .cancelled true)
    | some _ => (st.forget id, .cancelled false)
  | .sweeperSpawn config =>
    match config with
    | .error failure => (st, .unreadable failure)
    | .ok config =>
      ({ st with
        host := st.host.spawnSpare config
        byChance := st.byChance || config.sweepJitter ≠ Duration.zero }, .done)
  | .sweeperStop =>
    match st.host.stopSpare with
    | none => (st, .noSweeper)
    | some host => (st.withHost host, .stopped)
  | .sweeperDrop => (st.withHost { st.host with spare := none }, .flag st.host.spare.isSome)
  | .sweeperFinished => (st, .finished (st.host.spare.map (·.isFinished)))

/-- Takes one step and lets the background tasks settle. -/
def takeAndSettle (st : Stage) (step : Step) : Stage × Result :=
  let (st, result) := st.take step
  (st.withHost st.host.settle, result)

/-- The report on a step, and the stage with nothing left to report. -/
def report (setup : Setup) (isLast : Bool) (st : Stage) (result : Result) : Stage × Report :=
  let state := st.host.state
  let report : Report :=
    { result := result
      now := Host.millis state.now
      events := eventsOf st.byChance state.trace
      verifications := verificationsOf setup.watched state.trace
      notifications := notificationsOf state.trace
      records := recordsOf st.byChance setup.finest state.trace
      sessions := if setup.sessionsAtEnd && !isLast then none else some state.registry.sessions }
  (st.withHost { st.host with state := { state with trace := [] } }, report)

/-- Takes steps and reports on each. -/
def takeAll (setup : Setup) : List Step → Stage → List Report
  | [], _ => []
  | step :: steps, st =>
    let (st, result) := st.takeAndSettle step
    let (st, report) := st.report setup steps.isEmpty result
    report :: takeAll setup steps st

end Stage

/-- The report on a whole scenario: its configuration after validation, what building the
authority logged, and the report on each step. -/
structure Transcript where
  config : Config
  records : List ReportedRecord
  reports : List Report

/-- Runs a scenario. -/
def run (setup : Setup) (steps : List Step) : Transcript :=
  let (st, first) := (Stage.initial setup).report setup false .done
  ⟨setup.config.validated, first.records, Stage.takeAll setup steps st⟩

end Admittance.Scenario
