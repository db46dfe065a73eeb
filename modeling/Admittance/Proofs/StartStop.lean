import Admittance.Proofs.Announcement
import Admittance.Proofs.Rest
import Admittance.Proofs.Timetable

/-!
# The tasks act only between start and stop

Where starts and stops are called one after the other, each stop before the next start has returned,
an authority that runs has one sweeper and, just when it has a source of conference ends, one hook
with one receiver; a start that finds it running and a stop that finds it stopped do nothing to the
tasks; and from the return of a stop to the next start nothing but explicit calls changes the
registry (`Course.TasksWithinStartStop`).  What is announced meanwhile is never applied, for the
hook of the next start hears only what is announced after it, and the sweeper of the next start has
a timetable of its own.

The invariant behind it is that all crews but the last one are over (`Orderly.isOver_of_not_last`).
-/

namespace Admittance

variable {η : Type}

/-! ## The tasks of a crew that serves -/

namespace Crew

/-- A crew that serves keeps its hook. -/
lemma isSome_hook?_take {crew : Crew} (hserves : crew.duty.tasks?.isSome = true) (eager : Bool)
    (source : Option Channel) (s : State η) (turn : Turn) :
    (crew.take eager source s turn).1.duty.hook?.isSome = crew.duty.hook?.isSome := by
  cases turn with
  | tick => rw [take, (crew.hook?_tick s.now).1]
  | sweep => rw [take, (crew.hook?_sweep s).1]
  | hear =>
    simp only [take, hear]
    split
    · rename_i hook channel hhook _
      split
      · rw [Duty.hook?_withHook hhook, hhook]
        rfl
      · rfl
    · rfl
  | purge =>
    simp only [take, purge]
    split
    · rename_i hook name hhook _
      rw [Duty.hook?_withHook hhook, hhook]
      rfl
    · rfl
  | proceed =>
    obtain ⟨duty, hand⟩ := crew
    cases duty with
    | serving => rfl
    | leaving => cases hserves

end Crew

namespace Deployment

variable {d : Deployment η}

/-- What crews have that are not over is all with the last one, if the others are over. -/
lemma filterMap_crews {β : Type} {f : Crew → Option β} {n : Nat} {crew : Crew}
    (hover : ∀ crew, crew.duty.isOver = true → f crew = none) (hcrew : d.crews[n]? = some crew)
    (hlast : n + 1 = d.crews.length)
    (hothers : ∀ m crew, d.crews[m]? = some crew → m + 1 < d.crews.length →
      crew.duty.isOver = true) : d.crews.filterMap f = (f crew).toList := by
  have hsplit : d.crews = d.crews.take n ++ [crew] := by
    have htake := List.take_add_one (l := d.crews) (i := n)
    rwa [hcrew, hlast, List.take_length] at htake
  have hnone : (d.crews.take n).filterMap f = [] := by
    rw [List.filterMap_eq_nil_iff]
    intro crew' hmem
    obtain ⟨m, hm⟩ := List.mem_iff_getElem?.mp hmem
    rw [List.getElem?_take] at hm
    split at hm
    · rename_i hmn
      exact hover crew' (hothers m crew' hm (by omega))
    · cases hm
  rw [hsplit, List.filterMap_append, hnone]
  rfl

/-- Of an authority at rest no crew has anything left. -/
lemma AtRest.filterMap_crews {β : Type} {f : Crew → Option β} (h : d.AtRest)
    (hover : ∀ crew, crew.duty.isOver = true → f crew = none) : d.crews.filterMap f = [] := by
  rw [List.filterMap_eq_nil_iff]
  intro crew hcrew
  exact hover crew (h crew hcrew)

end Deployment

namespace Course

variable {c : Course η} {n i k : Nat} {crew : Crew}

/-- A crew that serves has a hook just when there is a source. -/
lemma isSome_hook? (hcrew : c.crew? n k = some crew) (hserves : crew.duty.tasks?.isSome = true) :
    crew.duty.hook?.isSome = c.source.isSome := by
  obtain ⟨j, chance, hjk, henlists⟩ := exists_enlists hcrew
  refine henlists.crew_induction (motive := fun _ crew => crew.duty.tasks?.isSome = true →
    crew.duty.hook?.isSome = c.source.isSome) ?_ ?_ hjk hcrew hserves
  · intro _
    rw [← c.isSome_source j]
    exact Option.isSome_map
  · intro k crew crew' _ _ ih hnext hserves'
    generalize c.acts[k]? = act at hnext
    cases hnext with
    | same => exact ih hserves'
    | taken => cases hserves'
    | turned turn =>
      rw [Crew.isSome_tasks?_take] at hserves'
      rw [Crew.isSome_hook?_take hserves']
      exact ih hserves'

/-! ## What was announced before a start -/

/-- A crew whose stop has returned does not come back. -/
lemma isOver_of_le {crew crew' : Crew} (hik : i ≤ k) (hcrew : c.crew? n i = some crew)
    (hover : crew.duty.isOver = true) (hcrew' : c.crew? n k = some crew') :
    crew'.duty.isOver = true := by
  induction k, hik using Nat.le_induction generalizing crew' with
  | base =>
    obtain rfl : crew = crew' := Option.some.inj (hcrew.symm.trans hcrew')
    exact hover
  | succ k hik ih =>
    rcases crew?_succ hcrew' with ⟨chance, henlists, -⟩ | ⟨crew'', hcrew'', hnext⟩
    · rw [henlists.crew?_eq_none hik] at hcrew
      cases hcrew
    · exact hnext.isOver (ih hcrew'')

/-- **What a hook hears after the authority has been at rest was sent after that.** -/
lemma length_sent_le_of_receives? (hrest : (c.before i).AtRest) (hik : i ≤ k) {p : Nat}
    {received : Channel.Received} (hreceives : c.receives? n k = some (p, received)) :
    (c.sent i).length ≤ p := by
  obtain ⟨crew, hook, channel, -, hcrew, hlistener, -, rfl, -⟩ := receives?_eq_some hreceives
  obtain ⟨hhook, -⟩ := Crew.listener?_eq_some.mp hlistener
  obtain ⟨j, chance, hjk, henlists⟩ := exists_enlists hcrew
  have hij : i ≤ j := by
    by_contra hji
    obtain ⟨crew', hcrew'⟩ := henlists.exists_crew (not_le.mp hji)
    have hover := isOver_of_le hik hcrew' (hrest crew' (List.mem_of_getElem? hcrew')) hcrew
    rw [Duty.hook?_of_isOver hover] at hhook
    cases hhook
  obtain ⟨position, htally⟩ := henlists.tally hjk hcrew
  have hposition := htally.here hook hhook
  have hcounted := htally.counted
  have hgrown := (c.sent_grows hij).length_le
  omega

/-- What a hook holds after the authority has been at rest it has heard after that. -/
lemma exists_receives?_of_hand (hrest : (c.before i).AtRest) (hik : i ≤ k)
    (hcrew : c.crew? n k = some crew) {name : String} (hhand : crew.hand = some name) :
    ∃ h p, i ≤ h ∧ h < k ∧ c.receives? n h = some (p, .message name) := by
  induction k, hik using Nat.le_induction generalizing crew with
  | base =>
    obtain ⟨j, chance, hjk, henlists⟩ := exists_enlists hcrew
    obtain ⟨position, htally⟩ := henlists.tally hjk hcrew
    obtain ⟨hsome, -⟩ := htally.held name hhand
    rw [Duty.hook?_of_isOver (hrest crew (List.mem_of_getElem? hcrew))] at hsome
    cases hsome
  | succ k hik ih =>
    have hlater : (∃ h p, i ≤ h ∧ h < k ∧ c.receives? n h = some (p, .message name)) →
        ∃ h p, i ≤ h ∧ h < k + 1 ∧ c.receives? n h = some (p, .message name) := by
      rintro ⟨h, p, hih, hhk, hreceives⟩
      exact ⟨h, p, hih, Nat.lt_succ_of_lt hhk, hreceives⟩
    rcases crew?_succ hcrew with ⟨chance, -, rfl⟩ | ⟨crew', hcrew', hnext⟩
    · cases hhand
    · have hstep := hnext.hookNext
      generalize hact : c.acts[k]? = act at hstep
      cases hstep with
      | still _ _ _ _ hand _ _ => exact hlater (ih hcrew' (hand ▸ hhand))
      | deaf => exact hlater (ih hcrew' hhand)
      | empty => exact hlater (ih hcrew' hhand)
      | purged => cases hhand
      | received hook channel listens source =>
        refine ⟨k, hook.position, hik, Nat.lt_succ_self k, ?_⟩
        have hname : (channel.receive hook.position).1 = .message name :=
          Hook.grasp_eq_some hhand
        rw [receives?_of_hear hact hcrew', Crew.receives?, listens, source, ← hname]
        rfl

/-- **What is announced while an authority is at rest is never applied**: whatever is applied later
has been heard after that, and is a later message of the source. -/
theorem exists_receives?_of_applies? (hrest : (c.before i).AtRest) (hik : i ≤ k) {name : String}
    (happlies : c.applies? n k = some name) : ∃ h p, i ≤ h ∧ h ≤ k ∧
      c.receives? n h = some (p, .message name) ∧ (c.sent i).length ≤ p := by
  have hheard : ∃ h p, i ≤ h ∧ h ≤ k ∧ c.receives? n h = some (p, .message name) := by
    unfold applies? at happlies
    split at happlies
    · split at happlies
      · obtain ⟨crew, hcrew, hhand⟩ := Option.bind_eq_some_iff.mp happlies
        obtain ⟨h, p, hih, hhk, hreceives⟩ := exists_receives?_of_hand hrest hik hcrew hhand
        exact ⟨h, p, hih, Nat.le_of_lt hhk, hreceives⟩
      · cases happlies
    · split at happlies
      · cases happlies
      · obtain ⟨⟨p, received⟩, hreceives, hname⟩ := Option.bind_eq_some_iff.mp happlies
        obtain rfl := Channel.Received.name?_eq_some hname
        exact ⟨k, p, hik, Nat.le_refl k, hreceives⟩
  obtain ⟨h, p, hih, hhk, hreceives⟩ := hheard
  exact ⟨h, p, hih, hhk, hreceives, length_sent_le_of_receives? hrest hih hreceives⟩

/-! ## The clock -/

/-- Behind the last act nothing happens. -/
lemma before_of_length_le (h : c.acts.length ≤ k) : c.before k = c.before c.acts.length := by
  induction k, h using Nat.le_induction with
  | base => rfl
  | succ k hk ih =>
    rw [before, List.getElem?_eq_none hk, Deployment.after, ih]

/-- The clock stands still when nothing happens any more. -/
lemma now_le_last (c : Course η) (k : Nat) : c.now k ≤ c.now c.acts.length := by
  rcases Nat.le_total k c.acts.length with hk | hk
  · exact c.now_le hk
  · rw [now, before_of_length_le hk]
    exact Int.le_refl _

/-! ## Courses in order -/

/-- The time between two ticks of any sweeper of the authority. -/
def interval (c : Course η) : Duration := c.authority.config.validated.sweepInterval

/-- The source never goes away. -/
def StaysOpen (c : Course η) : Prop := ∀ k ≤ c.acts.length, (c.before k).isClosed = false

instance (c : Course η) : Decidable c.StaysOpen :=
  inferInstanceAs (Decidable (∀ k ≤ c.acts.length, (c.before k).isClosed = false))

/-- A channel that stays open is open before every act. -/
lemma StaysOpen.isClosed (h : c.StaysOpen) (k : Nat) : (c.before k).isClosed = false := by
  rcases Nat.le_total k c.acts.length with hk | hk
  · exact h k hk
  · rw [before_of_length_le hk]
    exact h _ (Nat.le_refl _)

/-- The tasks of an authority do what starts and stops tell them. -/
structure TasksWithinStartStop (c : Course η) : Prop where
  /-- While the authority runs, there is one sweeper and, just when there is a source, one hook. -/
  one : ∀ k tasks, (c.before k).tasks? = some tasks →
    (c.before k).sweepers = [tasks.sweeper] ∧ (c.before k).hooks = tasks.hook.toList ∧
      tasks.hook.isSome = c.source.isSome
  /-- They are at work, and the hook holds a receiver, unless a sink has broken down. -/
  alive : ∀ k tasks, (c.before k).tasks? = some tasks →
    (∀ i < k, (c.registry i).sinkIsFragile = false) → tasks.sweeper.isFinished = false ∧
      (c.before k).receivers = if c.source.isSome then 1 else 0
  /-- A start that finds the authority running leaves all tasks as they are. -/
  startAgain : ∀ k chance tasks, c.acts[k]? = some (.start chance) →
    (c.before k).tasks? = some tasks →
      c.before (k + 1) = (c.before k).withState ((c.before k).world.state.log .alreadyRunning)
  /-- A stop that finds it stopped changes nothing. -/
  stopAgain : ∀ k, c.acts[k]? = some .stop → (c.before k).tasks? = none →
    c.before (k + 1) = c.before k
  /-- Once a stop has returned there are no tasks, and nothing but explicit calls changes the
  registry, until the next start. -/
  stopped : ∀ i k, c.Returned i k →
    (∀ m, i < m → m < k → ∀ chance, c.acts[m]? ≠ some (.start chance)) →
      (c.before k).sweepers = [] ∧ (c.before k).hooks = [] ∧
        ((∀ m, c.acts[k]? ≠ some (.request m)) → c.registry (k + 1) = c.registry k)
  /-- What is announced while the authority is stopped is never applied: whatever a hook applies
  later was sent after it, and heard after it. -/
  forgotten : ∀ i name elsewhere, c.acts[i]? = some (.announce name elsewhere) →
    (c.before i).tasks? = none → (c.before i).isStopping = false →
      ∀ n k x, i < k → c.applies? n k = some x → ∃ h p, i < h ∧ h ≤ k ∧
        c.receives? n h = some (p, .message x) ∧ (c.sent (i + 1)).length ≤ p
  /-- The sweeper of a start has a jitter that the configuration allows, and is as it was spawned
  until its task runs. -/
  waits : ∀ n j chance, c.Enlists n j chance →
    (Post.jitter ⟨j, c.authority.config, chance⟩).nanos ≤ c.interval.nanos ∧
      ∀ k > j, (∀ i < k, ¬ c.Begins n i) → ∀ crew w, c.crew? n k = some crew →
        crew.duty.sweeper? = some w → w = Post.recruit ⟨j, c.authority.config, chance⟩
  /-- Its first tick is due an interval and its jitter after its task has run for the first time,
  and until it is told to stop it keeps to the grid of that tick. -/
  ticks : ∀ n j chance i, c.Enlists n j chance → c.Begins n i → j < i ∧
    ∀ k > i, ∀ crew w, c.crew? n k = some crew → crew.duty.sweeper? = some w →
      c.Ticks ⟨j, c.authority.config, chance⟩
        (c.now i + c.interval.nanos + (Post.jitter ⟨j, c.authority.config, chance⟩).nanos) k w.phase

/-- A sweeper that serves is at work, unless a sink has broken down. -/
lemma isFinished_of_serving (hlimit : ∀ k, c.now k + c.interval.nanos + c.interval.nanos <
      Instant.limit) (hcrew : c.crew? n k = some crew) {w : Sweeper}
    (hw : crew.duty.sweeper? = some w)
    (hsink : ∀ i < k, (c.registry i).sinkIsFragile = false) : w.isFinished = false := by
  obtain ⟨j, chance, hjk, henlists⟩ := exists_enlists hcrew
  rcases henlists.fresh_or_begun hjk hcrew hw with rfl | ⟨⟨i, hik, hbegins⟩, -⟩
  · rw [Post.recruit_eq]
    rfl
  · obtain ⟨-, hticks⟩ := henlists.terms_and_ticks hbegins hlimit hik hcrew hw
    generalize hphase : w.phase = phase at hticks
    cases hticks with
    | asleep m => simp [Sweeper.isFinished, hphase]
    | awake m => simp [Sweeper.isFinished, hphase]
    | panicked broken =>
      obtain ⟨i, hik, hfragile⟩ := broken
      rw [hsink i hik] at hfragile
      cases hfragile

/-- A hook whose source stays holds its receiver, unless a sink has broken down. -/
lemma isReceiving_of_open (hopen : c.StaysOpen) (hcrew : c.crew? n k = some crew) {hook : Hook}
    (hhook : crew.duty.hook? = some hook)
    (hsink : ∀ i < k, (c.registry i).sinkIsFragile = false) : hook.isReceiving = true := by
  obtain ⟨j, chance, hjk, henlists⟩ := exists_enlists hcrew
  cases henlists.attends hjk hcrew hhook with
  | receiving hreceiving => exact hreceiving
  | ended _ gone _ =>
    rw [hopen.isClosed k] at gone
    cases gone
  | panicked _ broken =>
    obtain ⟨i, hik, hfragile⟩ := broken
    rw [hsink i hik] at hfragile
    cases hfragile

/-- While an authority runs, the tasks of its last crew are all that there are. -/
lemma Orderly.tasks_alone (h : c.Orderly) {tasks : Tasks}
    (htasks : (c.before k).tasks? = some tasks) :
    (c.before k).sweepers = [tasks.sweeper] ∧ (c.before k).hooks = tasks.hook.toList ∧
      tasks.hook.isSome = c.source.isSome := by
  obtain ⟨crew, n, hcrew, hlast, hserves⟩ := Deployment.tasks?_eq_some htasks
  have hothers : ∀ m crew, (c.before k).crews[m]? = some crew →
      m + 1 < (c.before k).crews.length → crew.duty.isOver = true :=
    fun m crew hcrew hlt => h.isOver_of_not_last hcrew hlt
  refine ⟨?_, ?_, ?_⟩
  · rw [Deployment.sweepers,
      Deployment.filterMap_crews (fun _ => Duty.sweeper?_of_isOver) hcrew hlast hothers, hserves]
    rfl
  · rw [Deployment.hooks, Deployment.filterMap_crews (fun _ => Duty.hook?_of_isOver) hcrew hlast
      hothers, hserves]
    rfl
  · have hsome := isSome_hook? (show c.crew? n k = some crew from hcrew) (by rw [hserves]; rfl)
    rwa [hserves] at hsome

/-- **The tasks act only between start and stop**, if starts and stops are called one after the
other, whatever else happens in between and whenever the tasks have their turns. -/
theorem Orderly.tasksWithinStartStop (h : c.Orderly) (hopen : c.StaysOpen)
    (hlimit : c.now c.acts.length + c.interval.nanos + c.interval.nanos < Instant.limit) :
    c.TasksWithinStartStop := by
  have hlimit' : ∀ k, c.now k + c.interval.nanos + c.interval.nanos < Instant.limit := by
    intro k
    have hlast := c.now_le_last k
    linarith
  constructor
  case one => exact fun _ _ => h.tasks_alone
  case alive =>
    intro k tasks htasks hsink
    obtain ⟨-, hhooks, hsource⟩ := h.tasks_alone htasks
    obtain ⟨crew, n, hcrew, -, hserves⟩ := Deployment.tasks?_eq_some htasks
    constructor
    · exact isFinished_of_serving hlimit' hcrew (by rw [hserves]; rfl) hsink
    · rw [Deployment.receivers, hhooks, ← hsource]
      cases htask : tasks.hook with
      | none => rfl
      | some hook =>
        have hreceiving : hook.isReceiving = true :=
          isReceiving_of_open hopen hcrew (by rw [hserves]; exact htask) hsink
        simp [hreceiving]
  case startAgain =>
    intro k chance tasks hact htasks
    simp only [before, hact, Deployment.after, Deployment.step, htasks, Service.start]
  case stopAgain =>
    intro k hact htasks
    simp only [before, hact, Deployment.after, Deployment.step, htasks, Service.beginStop,
      Option.map_none]
  case stopped =>
    intro i k hreturned hstart
    have hrest := hreturned.atRest h hstart
    exact ⟨hrest.filterMap_crews fun _ => Duty.sweeper?_of_isOver,
      hrest.filterMap_crews fun _ => Duty.hook?_of_isOver, registry_succ_of_atRest hrest⟩
  case forgotten =>
    -- No hook is there to hear the announcement, and a later one hears only what comes after it.
    intro i name elsewhere hact hstopped hidle n k x hik happlies
    have hrest := atRest_succ (atRest_iff.mpr ⟨hstopped, hidle⟩) (by simp [hact])
    exact exists_receives?_of_applies? hrest hik happlies
  case waits =>
    intro n j chance henlists
    constructor
    · exact Nat.le_trans (Post.jitter_le _) (Nat.min_le_right _ _)
    · intro k hjk hnever crew w hcrew hw
      rcases henlists.fresh_or_begun hjk hcrew hw with hfresh | ⟨⟨i, hik, hbegins⟩, -⟩
      · exact hfresh
      · exact absurd hbegins (hnever i hik)
  case ticks =>
    intro n j chance i henlists hbegins
    refine ⟨henlists.lt_of_begins hbegins, ?_⟩
    intro k hik crew w hcrew hw
    exact (henlists.terms_and_ticks hbegins hlimit' hik hcrew hw).2

/-- Two sessions are opened, and the sweeper waits for the registry when the authority is stopped.
Then the conference of the first session ends, the authority is started anew, and the conference of
the second one ends. -/
def relieved : Course Unit where
  authority := .sample .reverify
  start := .initial 0 none ()
  source := some (.withCapacity 4)
  acts := [.start fun _ => 0, .request (.arrive 0 (.create "desk" "ann" "room" .empty)),
    .request (.enter 0 true), .request (.arrive 1 (.create "lamp" "bob" "hall" .empty)),
    .request (.enter 1 true), .task 0 .tick, .start fun _ => 1, .request (.wait 10000000000),
    .task 0 .tick, .stop, .task 0 .proceed, .task 0 .sweep, .task 0 .proceed, .task 0 .proceed,
    .announce "room" true, .stop, .start fun _ => 1000, .announce "hall" false, .task 1 .tick,
    .task 1 .hear, .task 1 .purge]

/-- The end that is announced meanwhile is never applied, and the one after the restart is. -/
theorem relieved_tasksWithinStartStop :
    relieved.Orderly ∧ relieved.StaysOpen ∧
      relieved.now relieved.acts.length + relieved.interval.nanos + relieved.interval.nanos <
        Instant.limit ∧ relieved.TasksWithinStartStop ∧ relieved.Returned 9 14 ∧
      relieved.Begins 1 18 ∧
      (relieved.before 21).sweepers = [⟨.ofMillis 86400000, .ofMillis 10000, .asleep 20001000000⟩] ∧
      (relieved.before 21).receivers = 1 ∧ relieved.applied 1 21 = ["hall"] ∧
      (relieved.registry 20).tokens = [.ofNumber 0, .ofNumber 1] ∧
      (relieved.registry 21).tokens = [.ofNumber 0] :=
  ⟨by decide, by decide, by decide,
    Orderly.tasksWithinStartStop (by decide) (by decide) (by decide),
    ⟨rfl, by decide, .inr ⟨_, rfl, rfl⟩⟩, ⟨rfl, _, _, _, rfl, rfl, rfl, rfl⟩, by decide, by decide,
    by decide, by decide, by decide⟩

end Course

end Admittance
