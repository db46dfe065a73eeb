import Admittance.Service
import Admittance.Proofs.Turnover

/-!
# An authority with its tasks

A deployed authority is started and stopped while calls come in, the ends of conferences are
announced and the clock moves on.  Every start that finds no running tasks spawns a *crew* of its
own: a sweeper and, where there is a source, a hook.  A stop takes the crew that serves, tells its
sweeper to stop and waits for it, then tells its hook to stop and waits for it; until then both
tasks go on with what they were at.  A `Deployment` holds all crews that were ever spawned, so that
no task can get out of sight, and an `Act` lets anybody have a turn: what a turn comes to is said by
the functions that a host runs (`Service.start`, `Service.beginStop`, `Service.continueStop`,
`Sweeper.tick`, `Sweeper.sweep`), and who is next is left open.

A hook hears of the end of a conference first and then waits for the registry, which others may
hold.  Its turn is therefore torn in two halves, and `Hook.receive_eq` says that they make the
whole.

A `Course` is a list of acts from a deployment without tasks, and `Course.before` the deployment
that an act of it finds.
-/

namespace Admittance

variable {η : Type}

/-! ## A hook's turn in two halves -/

namespace Hook

/-- A listening hook receives once; if it has to remove sessions, it holds the name of their
conference from now on. -/
def hear (h : Hook) (eager : Bool) (c : Channel) (s : State η) : Hook × Option String × State η :=
  match h.phase with
  | .listening =>
    match c.receive h.position with
    | (.message name, position) =>
      if eager then (⟨position, .listening⟩, some name, s)
      else (⟨position, .listening⟩, none, s.log (.conferenceKept name))
    | (.lagged missed, position) => (⟨position, .listening⟩, none, s.log (.receiverLagged missed))
    | (.closed, position) =>
      (⟨position, .ended⟩, none, (s.log .sourceClosed).log .hookUnsubscribed)
    | (.nothing, _) => (h, none, s)
  | _ => (h, none, s)

/-- A hook that holds a name gets the registry. -/
def purge (h : Hook) (name : String) (s : State η) : Hook × State η :=
  match Authority.purgeEnded s name with
  | (s, true) => (h, s)
  | (s, false) => ({ h with phase := .panicked }, s)

/-- The two halves make the whole. -/
theorem receive_eq (h : Hook) (eager : Bool) (c : Channel) (s : State η) :
    h.receive eager c s =
      match h.hear eager c s with
      | (h, some name, s) => h.purge name s
      | (h, none, s) => (h, s) := by
  cases hphase : h.phase with
  | listening =>
    simp only [receive, hear, hphase]
    rcases c.receive h.position with ⟨received, position⟩
    cases received with
    | message name =>
      cases eager with
      | true =>
        rcases hpurged : Authority.purgeEnded s name with ⟨s', survives⟩
        cases survives <;> simp only [apply, purge, hpurged, if_true]
      | false => rfl
    | lagged | closed | nothing => rfl
  | spawned | ended | panicked => simp only [receive, hear, hphase]

end Hook

/-! ## Crews -/

/-- Whose the tasks of a crew are. -/
inductive Duty
  /-- They are the authority's. -/
  | serving (tasks : Tasks)
  /-- A stop has taken them; the flag says whether it has told the sweeper yet. -/
  | leaving (stop : Stop) (told : Bool)
  deriving DecidableEq

namespace Duty

/-- The tasks that a stop would take. -/
def tasks? : Duty → Option Tasks
  | serving tasks => some tasks
  | leaving _ _ => none

/-- The sweeper, until a stop has seen its end. -/
def sweeper? : Duty → Option Sweeper
  | serving tasks => some tasks.sweeper
  | leaving (.sweeper w _) _ => some w
  | leaving _ _ => none

/-- The hook, until a stop has seen its end. -/
def hook? : Duty → Option Hook
  | serving tasks => tasks.hook
  | leaving (.sweeper _ hook) _ => hook
  | leaving (.hook hook) _ => hook
  | leaving .finished _ => none

/-- The tasks with another sweeper in place of the one that is there. -/
def withSweeper (w : Sweeper) : Duty → Duty
  | serving tasks => serving { tasks with sweeper := w }
  | leaving (.sweeper _ hook) told => leaving (.sweeper w hook) told
  | leaving stop told => leaving stop told

/-- The tasks with another hook in place of the one that is there. -/
def withHook (h : Hook) : Duty → Duty
  | serving tasks => serving { tasks with hook := some h }
  | leaving (.sweeper w _) told => leaving (.sweeper w (some h)) told
  | leaving (.hook _) told => leaving (.hook (some h)) told
  | leaving .finished told => leaving .finished told

/-- The sweeper has not been told to stop. -/
def mayTick : Duty → Bool
  | serving _ => true
  | leaving _ told => !told

/-- The hook has not been told to stop. -/
def mayHear : Duty → Bool
  | serving _ | leaving (.sweeper _ _) _ => true
  | leaving _ _ => false

/-- A stop is under way. -/
def isLeaving : Duty → Bool
  | serving _ | leaving .finished _ => false
  | leaving _ _ => true

/-- The stop that took the tasks has returned. -/
def isOver : Duty → Bool
  | leaving .finished _ => true
  | _ => false

end Duty

/-- The tasks that one start has spawned. -/
structure Crew where
  duty : Duty
  /-- The conference that the hook has heard of and whose sessions it has not removed yet. -/
  hand : Option String
  deriving DecidableEq

/-- What a crew may do next. -/
inductive Crew.Turn
  /-- The sweeper's task runs, and takes a tick if one is due. -/
  | tick
  /-- The sweeper gets the registry if it waits for it. -/
  | sweep
  /-- The hook's task runs, and receives once. -/
  | hear
  /-- The hook gets the registry if it waits for it. -/
  | purge
  /-- The stop that took the crew runs on. -/
  | proceed
  deriving DecidableEq

namespace Crew

/-- The crew that a start spawns. -/
def spawned (a : Authority η) (chance : Nat → Nat) (source : Option Channel) : Crew :=
  ⟨.serving ⟨(Sweeper.spawn a.config chance).1, source.map Hook.subscribe⟩, none⟩

/-- The crew as a stop takes it. -/
def taken (crew : Crew) (tasks : Tasks) : Crew :=
  ⟨.leaving (.sweeper tasks.sweeper tasks.hook) false, crew.hand⟩

/-- The sweeper's task runs; one that was told to stop takes no tick any more. -/
def tick (crew : Crew) (now : Instant) : Crew :=
  match crew.duty.sweeper? with
  | some w =>
    if crew.duty.mayTick then
      { crew with duty := crew.duty.withSweeper ((w.begin now).tick now) }
    else crew
  | none => crew

/-- The sweeper gets the registry. -/
def sweep (crew : Crew) (s : State η) : Crew × State η :=
  match crew.duty.sweeper? with
  | some w => ({ crew with duty := crew.duty.withSweeper (w.sweep s).1 }, (w.sweep s).2)
  | none => (crew, s)

/-- The hook's task runs; one that was told to stop receives nothing any more. -/
def hear (eager : Bool) (source : Option Channel) (crew : Crew) (s : State η) : Crew × State η :=
  match crew.duty.hook?, source, crew.hand with
  | some hook, some channel, none =>
    if crew.duty.mayHear then
      let (hook, s) := hook.begin s
      let (hook, hand, s) := hook.hear eager channel s
      (⟨crew.duty.withHook hook, hand⟩, s)
    else (crew, s)
  | _, _, _ => (crew, s)

/-- The hook gets the registry. -/
def purge (crew : Crew) (s : State η) : Crew × State η :=
  match crew.duty.hook?, crew.hand with
  | some hook, some name =>
    (⟨crew.duty.withHook (hook.purge name s).1, none⟩, (hook.purge name s).2)
  | _, _ => (crew, s)

/-- The stop that took the crew runs on.  It does not see the end of a hook that waits for the
registry. -/
def proceed (crew : Crew) (s : State η) : Crew × State η :=
  match crew.duty, crew.hand with
  | .serving _, _ | .leaving (.hook _) _, some _ => (crew, s)
  | .leaving stop _, hand =>
    (⟨.leaving (Service.continueStop stop s).1 true, hand⟩, (Service.continueStop stop s).2)

/-- A crew has a turn. -/
def take (eager : Bool) (source : Option Channel) (crew : Crew) (s : State η) :
    Crew.Turn → Crew × State η
  | .tick => (crew.tick s.now, s)
  | .sweep => crew.sweep s
  | .hear => crew.hear eager source s
  | .purge => crew.purge s
  | .proceed => crew.proceed s

end Crew

/-! ## Deployments -/

/-- An authority's world, the source of conference ends, and all crews that were ever spawned, in
order. -/
structure Deployment (η : Type) where
  world : World η
  source : Option Channel
  crews : List Crew

/-- What may happen next. -/
inductive Act
  /-- A call comes further, the clock moves, or a listener is registered or removed. -/
  | request (move : Move)
  /-- The end of a conference is announced; the flag says whether anybody but hooks receives it. -/
  | announce (conferenceName : String) (elsewhere : Bool)
  /-- The source goes away. -/
  | close
  /-- The authority is started; this is how its sweeper picks a jitter. -/
  | start (chance : Nat → Nat)
  /-- A stop is called, and takes the tasks that it finds. -/
  | stop
  /-- The crew of a number has a turn. -/
  | task (number : Nat) (turn : Crew.Turn)

/-- The move is a background task's. -/
def Move.isBackground : Move → Bool
  | .sweep _ | .receive _ _ => true
  | _ => false

/-- The act is a start or a stop. -/
def Act.isSwitch : Act → Bool
  | .start _ | .stop => true
  | _ => false

namespace Deployment

/-- A deployment before its first start. -/
def idle (s : State η) (source : Option Channel) : Deployment η := ⟨.quiet s, source, []⟩

variable (d : Deployment η)

/-- The deployment with another state of the authority. -/
def withState (s : State η) : Deployment η := { d with world := { d.world with state := s } }

/-- The authority's registry. -/
def registry : Registry := d.world.state.registry

/-- The authority's clock. -/
def now : Instant := d.world.state.now

/-- The tasks of the authority; it runs if it has any. -/
def tasks? : Option Tasks := d.crews.getLast?.bind fun crew => crew.duty.tasks?

/-- A stop is under way. -/
def isStopping : Bool := d.crews.any fun crew => crew.duty.isLeaving

/-- The sweepers whose end nobody has seen. -/
def sweepers : List Sweeper := d.crews.filterMap fun crew => crew.duty.sweeper?

/-- The hooks whose end nobody has seen. -/
def hooks : List Hook := d.crews.filterMap fun crew => crew.duty.hook?

/-- The number of receivers that hooks hold. -/
def receivers : Nat := d.hooks.countP Hook.isReceiving

/-- All that was ever sent by the source. -/
def sent : List String :=
  match d.source with
  | some channel => channel.sent
  | none => []

/-- The source has gone away. -/
def isClosed : Bool :=
  match d.source with
  | some channel => channel.closed
  | none => false

/-- The deployment after an act.  A message without receivers is not sent, and a source that has
gone away sends none. -/
def step (a : Authority η) : Act → Deployment η
  | .request m => if m.isBackground then d else { d with world := d.world.step a m }
  | .announce name elsewhere =>
    if d.isClosed || !elsewhere && d.receivers == 0 then d
    else { d with source := d.source.map (·.send name) }
  | .close => { d with source := d.source.map Channel.close }
  | .start chance =>
    let (tasks, s) := Service.start a chance d.source d.tasks? d.world.state
    match d.tasks?, tasks with
    | none, some tasks => { d.withState s with crews := d.crews ++ [⟨.serving tasks, none⟩] }
    | _, _ => d.withState s
  | .stop =>
    match Service.beginStop d.tasks? with
    | none => d
    | some stop =>
      { d with
        crews := d.crews.modify (d.crews.length - 1) fun crew =>
          { crew with duty := .leaving stop false } }
  | .task n turn =>
    match d.crews[n]? with
    | none => d
    | some crew =>
      let (crew, s) := crew.take a.config.destroyOnConferenceEnd d.source d.world.state turn
      { d.withState s with crews := d.crews.set n crew }

/-- The deployment after an act, if there is one. -/
def after (a : Authority η) : Option Act → Deployment η
  | some act => d.step a act
  | none => d

end Deployment

/-! ## Courses -/

/-- An authority, a state and a source of conference ends to start from, and what happens then. -/
structure Course (η : Type) where
  authority : Authority η
  start : State η
  source : Option Channel
  acts : List Act

namespace Course

/-- The deployment that act `k` finds; nothing happens after the last act. -/
def before (c : Course η) : Nat → Deployment η
  | 0 => .idle c.start c.source
  | k + 1 => (c.before k).after c.authority c.acts[k]?

variable (c : Course η)

/-- The registry that act `k` finds. -/
def registry (k : Nat) : Registry := (c.before k).registry

/-- The time of act `k`. -/
def now (k : Nat) : Instant := (c.before k).now

/-- The crew of a number, as act `k` finds it. -/
def crew? (n k : Nat) : Option Crew := (c.before k).crews[n]?

/-- Act `k` is a start, finds no tasks and spawns the crew of a number. -/
structure Enlists (n k : Nat) (chance : Nat → Nat) : Prop where
  act : c.acts[k]? = some (.start chance)
  stopped : (c.before k).tasks? = none
  number : (c.before k).crews.length = n

end Course

end Admittance
