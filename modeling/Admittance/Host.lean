import Admittance.Service

/-!
# A host on a simulated clock

A host owns an authority, its background tasks and the clock.  The clock stands still until it
is moved, and it is moved in whole milliseconds.  Background tasks run when the host lets them
*settle*: every task runs until it waits for the clock, for a message or for the registry.
Sweepers whose timers go off at one moment run in the order in which they set them.

The registry goes to whoever asked first.  A call or a sweeper that wants it while it is taken
joins the end of a line, also when it wants it again.
-/

namespace Admittance

/-- The two places where a host keeps sweepers: in the running authority, and on its own. -/
inductive SweeperPlace
  | authority
  | spare
  deriving DecidableEq

/-- The other place. -/
def SweeperPlace.other : SweeperPlace → SweeperPlace
  | .authority => .spare
  | .spare => .authority

/-- Who waits for the registry. -/
inductive Waiter
  /-- The call of a given number, before a section. -/
  | call (number : Nat) (pending : Section)
  /-- The call of a given number, which is worded when it has the registry. -/
  | deferred (number : Nat) (wording : Nat → Call)
  | sweeper (place : SweeperPlace)

/-- An authority with its background tasks on a simulated clock. -/
structure Host (η : Type) where
  authority : Authority η
  state : State η
  tasks : Option Tasks
  /-- The channel on which the ends of conferences are announced. -/
  source : Option Channel
  /-- A sweeper that no authority owns. -/
  spare : Option Sweeper
  /-- The place whose sweeper set its timer earlier than the other one did. -/
  elder : SweeperPlace
  /-- What a sweeper draws when it may pick a jitter up to a limit. -/
  chance : Nat → Nat

namespace Host

variable {η : Type}

/-- A host that does not run yet. -/
def idle (authority : Authority η) (state : State η) (source : Option Channel)
    (chance : Nat → Nat) : Host η :=
  { authority := authority
    state := state
    tasks := none
    source := source
    spare := none
    elder := .authority
    chance := chance }

/-- The reading of the clock when a host is set up: a day after the clock's own zero. -/
def origin : Instant := (86400 * nanosPerSecond : Nat)

/-- The milliseconds from the origin to an instant. -/
def millis (t : Instant) : Int := (t - origin) / (nanosPerMilli : Int)

/-! ## Sweepers -/

/-- The sweeper at a place. -/
def sweeperAt (h : Host η) : SweeperPlace → Option Sweeper
  | .authority => h.tasks.map (·.sweeper)
  | .spare => h.spare

/-- The host with another sweeper at a place that has one. -/
def setSweeper (h : Host η) (place : SweeperPlace) (w : Sweeper) : Host η :=
  match place with
  | .authority => { h with tasks := h.tasks.map fun tasks => { tasks with sweeper := w } }
  | .spare => { h with spare := h.spare.map fun _ => w }

/-- Lets a sweeper run until it waits for the clock or for the registry; the flag says whether it
waits for the registry. -/
def wakeSweeper (h : Host η) (place : SweeperPlace) : Host η × Bool :=
  match h.sweeperAt place with
  | none => (h, false)
  | some w =>
    let begun := w.begin h.state.now
    let ticked := begun.tick h.state.now
    (h.setSweeper place ticked, begun.isDue h.state.now && !ticked.isFinished)

/-- Lets a sweeper that waits for the registry have it; then it sets its timer anew. -/
def sweepNow (h : Host η) (place : SweeperPlace) : Host η :=
  match h.sweeperAt place with
  | none => h
  | some w =>
    let (w, state) := w.sweep h.state
    { h with state := state, elder := place.other }.setSweeper place w

/-- Lets a sweeper run while nobody else wants the registry. -/
def runSweeper (h : Host η) (place : SweeperPlace) : Host η :=
  match h.wakeSweeper place with
  | (h, true) => h.sweepNow place
  | (h, false) => h

/-! ## Settling -/

/-- Lets the hook run. -/
def runHook (h : Host η) : Host η :=
  match h.tasks, h.source with
  | some tasks, some channel =>
    match tasks.hook with
    | none => h
    | some hook =>
      let (hook, state) := hook.run h.authority.config.destroyOnConferenceEnd channel h.state
      { h with state := state, tasks := some { tasks with hook := some hook } }
  | _, _ => h

/-- When a sweeper's timer goes off, if it waits for one. -/
def alarm? (h : Host η) (place : SweeperPlace) : Option Instant := do
  return Instant.roundUpToMilli origin (← (← h.sweeperAt place).due?)

/-- The sweeper that runs first: the one with the earlier timer or, if both timers go off at one
moment, the one that set it earlier. -/
def foremost (h : Host η) : SweeperPlace :=
  match h.alarm? h.elder, h.alarm? h.elder.other with
  | some elder, some younger => if younger < elder then h.elder.other else h.elder
  | _, _ => h.elder

/-- Lets all background tasks run until they wait. -/
def settle (h : Host η) : Host η :=
  let first := h.foremost
  ((h.runSweeper first).runSweeper first.other).runHook

/-- Lets all sweepers run until they wait while somebody holds the registry, and says which of
them joined the line. -/
def settleHeld (h : Host η) : Host η × List Waiter :=
  let first := h.foremost
  let (h, firstWaits) := h.wakeSweeper first
  let (h, secondWaits) := h.wakeSweeper first.other
  (h, (if firstWaits then [.sweeper first] else []) ++
    if secondWaits then [.sweeper first.other] else [])

/-! ## Moving the clock -/

/-- The host with its clock at `now`. -/
def setClock (h : Host η) (now : Instant) : Host η :=
  { h with state := { h.state with now := now } }

/-- The next moment up to `target` at which a timer goes off. -/
def nextAlarm? (h : Host η) (target : Instant) : Option Instant :=
  match (h.alarm? .authority).filter (· ≤ target), (h.alarm? .spare).filter (· ≤ target) with
  | some a, some b => some (min a b)
  | some a, none => some a
  | none, b => b

/-- Moves the clock from timer to timer up to `target`, at most `steps` of them, and lets the
tasks settle at each. -/
def sleepUntil (target : Instant) : Nat → Host η → Host η
  | 0, h => (h.setClock target).settle
  | steps + 1, h =>
    match h.nextAlarm? target with
    | none => (h.setClock target).settle
    | some t => sleepUntil target steps (h.setClock (max h.state.now t)).settle

/-- Moves the clock likewise while somebody holds the registry. -/
def holdUntil (target : Instant) : Nat → Host η × List Waiter → Host η × List Waiter
  | 0, (h, line) => (h.setClock target, line)
  | steps + 1, (h, line) =>
    match h.nextAlarm? target with
    | none => (h.setClock target, line)
    | some t =>
      let (h, more) := (h.setClock (max h.state.now t)).settleHeld
      holdUntil target steps (h, line ++ more)

/-- The most timers of two sweepers that can go off within a number of milliseconds. -/
def alarmBound (ms : Nat) : Nat := 2 * (ms / 10 + 3)

/-- The clock's reading after a number of milliseconds. -/
def later (h : Host η) (ms : Nat) : Instant := h.state.now + (ms * nanosPerMilli : Nat)

/-- Sleeps: the clock moves from timer to timer. -/
def sleep (h : Host η) (ms : Nat) : Host η := sleepUntil (h.later ms) (alarmBound ms) h

/-- Moves the clock in one go; only then tasks run. -/
def advance (h : Host η) (ms : Nat) : Host η := (h.setClock (h.later ms)).settle

/-! ## Calls -/

/-- A call that runs undisturbed. -/
def perform (h : Host η) (call : Call) : Host η × Progress :=
  let (state, progress) := h.authority.perform h.state call
  ({ h with state := state }, progress)

/-- A call that runs undisturbed until its verifier is asked, which does not answer yet. -/
def performToVerifier (h : Host η) (call : Call) : Host η × Progress :=
  match h.authority.arrive h.state call with
  | (state, .waiting pending) =>
    match h.authority.enter state pending with
    | (state, .verifying context) =>
      ({ h with state := Authority.consult state context true }, .verifying context)
    | reached =>
      let (state, progress) := h.authority.proceed reached
      ({ h with state := state }, progress)
  | (state, progress) => ({ h with state := state }, progress)

/-- A call whose verifier has been asked gets the verifier's answer and runs on. -/
def resume (h : Host η) (context : VerifyContext) : Host η × Progress :=
  let verdict := h.authority.verifier.verify context
  let (state, progress) := h.authority.proceed (Authority.conclude h.state context verdict)
  ({ h with state := state }, progress)

/-! ## Races -/

/-- One who takes part in a race. -/
inductive Entrant
  /-- A call that is settled when it arrives. -/
  | call (call : Call)
  /-- A call on the registry alone.  It is worded when it has the registry, knowing how many
  tokens have been drawn by then. -/
  | deferred (wording : Nat → Call)

/-- The calls of a race that are answered, by their numbers. -/
abbrev Answers := List (Nat × Answer)

/-- Files what became of the call of a given number: it is answered, or it joins the line. -/
def file (number : Nat) (line : List Waiter) (answers : Answers) :
    Progress → List Waiter × Answers
  | .answered answer => (line, (number, answer) :: answers)
  | .waiting pending => (line ++ [.call number pending], answers)
  | .verifying _ => (line, answers)

/-- Calls arrive while somebody holds the registry; the first of them has the given number. -/
def arriveAll : Nat → List Entrant → Host η × List Waiter × Answers →
    Host η × List Waiter × Answers
  | _, [], s => s
  | number, .call call :: entrants, (h, line, answers) =>
    let (state, progress) := h.authority.arrive h.state call
    let (line, answers) := file number line answers progress
    arriveAll (number + 1) entrants ({ h with state := state }, line, answers)
  | number, .deferred wording :: entrants, (h, line, answers) =>
    arriveAll (number + 1) entrants (h, line ++ [.deferred number wording], answers)

/-- Serves the line from its front, at most `steps` waiters. -/
def serve : Nat → Host η × List Waiter × Answers → Host η × Answers
  | 0, (h, _, answers) => (h, answers)
  | _, (h, [], answers) => (h, answers)
  | steps + 1, (h, .sweeper place :: line, answers) =>
    let (h, again) := (h.sweepNow place).wakeSweeper place
    serve steps (h, if again then line ++ [.sweeper place] else line, answers)
  | steps + 1, (h, .call number pending :: line, answers) =>
    let (state, progress) :=
      h.authority.verifyAtOnce line.isEmpty (h.authority.enter h.state pending)
    let (line, answers) := file number line answers progress
    serve steps ({ h with state := state }, line, answers)
  | steps + 1, (h, .deferred number wording :: line, answers) =>
    let (state, answer) := h.authority.runWhole h.state (wording h.state.drawn)
    serve steps ({ h with state := state }, line, (number, answer) :: answers)

/-- Calls arrive one after the other while the registry is held, for `hold` milliseconds before
the first of them; then the registry is released.  Every waiter wants it at most twice. -/
def race (h : Host η) (hold : Option Nat) (entrants : List Entrant) : Host η × Answers :=
  let (h, line) := match hold with
    | none => (h, [])
    | some ms =>
      let (h, line) := holdUntil (h.later ms) (alarmBound ms) (h, [])
      let (h, more) := h.settleHeld
      (h, line ++ more)
  let (h, line, answers) := arriveAll 0 entrants (h, line, [])
  serve (2 * line.length) (h, line, answers)

/-! ## Starting, stopping, announcing -/

/-- Whether the authority runs. -/
def isRunning (h : Host η) : Bool := h.tasks.isSome

/-- Starts the authority. -/
def start (h : Host η) : Host η :=
  let (tasks, state) := Service.start h.authority h.chance h.source h.tasks h.state
  { h with tasks := tasks, state := state, elder := if h.isRunning then h.elder else .spare }

/-- Stops the authority. -/
def stop (h : Host η) : Host η :=
  { h with tasks := none, state := Service.stop h.tasks h.state }

/-- The number of receivers of the channel. -/
def receivers (h : Host η) : Nat :=
  match h.tasks.bind (·.hook) with
  | some hook => if hook.isReceiving then 1 else 0
  | none => 0

/-- Announces the end of a conference, and says how many receivers the message has; a message
without receivers is not sent. -/
def announce (h : Host η) (conferenceName : String) : Host η × Option Nat :=
  match h.source with
  | none => (h, none)
  | some channel =>
    if h.receivers = 0 then (h, none)
    else ({ h with source := some (channel.send conferenceName) }, some h.receivers)

/-- Announces several ends in a row. -/
def announceAll (h : Host η) : List String → Host η × List (Option Nat)
  | [] => (h, [])
  | name :: names =>
    let (h, count) := h.announce name
    let (h, counts) := announceAll h names
    (h, count :: counts)

/-- Closes the channel and puts a new one in its place, which nobody receives from yet. -/
def replaceSource (h : Host η) (capacity : Nat) : Host η :=
  let closed := Host.runHook { h with source := h.source.map Channel.close }
  { closed with source := some (Channel.withCapacity capacity) }

/-- Puts a sweeper of its own next to the authority. -/
def spawnSpare (h : Host η) (config : Config) : Host η :=
  let (w, records) := Sweeper.spawn config h.chance
  { h with spare := some w, state := h.state.note (records.map .record), elder := .authority }

/-- Stops the sweeper that no authority owns. -/
def stopSpare (h : Host η) : Option (Host η) :=
  h.spare.map fun w =>
    let ended := w.shutDown h.state.now
    { h with spare := none, state := h.state.note (ended.farewell.map .record) }

end Host

end Admittance
