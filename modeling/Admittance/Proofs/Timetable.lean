import Admittance.Proofs.Course
import Admittance.Proofs.Expiry

/-!
# Every start has a timetable of its own

The sweeper of a crew keeps to a timetable that begins when its task runs for the first time: its
first tick is due an interval and its jitter later, and all further ones lie on the grid of that
tick (`Course.Ticks`).  Nothing that happens to other crews, and no start that finds the authority
running, moves it.  `Crew.SweeperNext` lists what may become of the sweeper of a crew, and the
timetable is kept by each of these.
-/

namespace Admittance

variable {η : Type}

/-! ## What becomes of a sweeper -/

/-- A sweeper that is told to stop and does not end waits for the registry, and goes on waiting. -/
lemma Sweeper.shutDown_of_not_isFinished {w : Sweeper} {now : Instant}
    (h : (w.shutDown now).isFinished = false) : w.shutDown now = w := by
  cases hphase : w.phase with
  | spawned jitter =>
    simp only [shutDown, begin, hphase] at h
    cases hdeadline : firstDeadline? now w.interval jitter <;>
      simp [hdeadline, isFinished] at h
  | asleep due => simp [shutDown, begin, hphase, isFinished] at h
  | awake next | stopped | panicked =>
    obtain ⟨lifetime, interval, phase⟩ := w
    obtain rfl := hphase
    rfl

/-- The tick after one that is taken comes a whole number of periods later. -/
lemma Sweeper.exists_steps {interval : Duration} {due now : Int}
    (hinterval : Config.minSweepInterval.nanos ≤ interval.nanos) (hdue : due ≤ now)
    (hlimit : now + interval.nanos < (Instant.limit : Int)) :
    ∃ steps : Nat, nextDue? interval due now =
      some (due + ((steps * period interval : Nat) : Int)) := by
  obtain ⟨next, hnext, -, m, hgrid⟩ := exists_nextDue hinterval hdue hlimit
  have hlater := lt_of_nextDue?_eq_some hinterval hnext
  have hm : 0 ≤ m := by
    by_contra hnegative
    have hback := Int.mul_nonpos_of_nonpos_of_nonneg (Int.le_of_lt (not_le.mp hnegative))
      (Int.natCast_nonneg (period interval))
    linarith
  obtain ⟨steps, rfl⟩ := Int.eq_ofNat_of_zero_le hm
  refine ⟨steps, ?_⟩
  rw [hnext, hgrid, Int.natCast_mul]

namespace Crew

variable {a : Authority η} {d : Deployment η} {n : Nat} {crew crew' : Crew} {act : Option Act}

/-- How the sweeper of a crew comes further by an act. -/
inductive SweeperNext (d : Deployment η) (n : Nat) (crew : Crew) : Option Act → Crew → Prop
  /-- The act is not about the sweeper, unless a stop sees its end. -/
  | still (act : Option Act) (crew' : Crew) (unmoved : crew.duty.mayTick = true →
      crew.duty.sweeper?.isSome = true → act ≠ some (.task n .tick))
      (kept : ∀ w, crew'.duty.sweeper? = some w → crew.duty.sweeper? = some w) :
      SweeperNext d n crew act crew'
  | ticked (w : Sweeper) (crew' : Crew) (sweeper : crew.duty.sweeper? = some w)
      (may : crew.duty.mayTick = true)
      (moved : crew'.duty.sweeper? = some ((w.begin d.now).tick d.now)) :
      SweeperNext d n crew (some (.task n .tick)) crew'
  | swept (w : Sweeper) (crew' : Crew) (sweeper : crew.duty.sweeper? = some w)
      (moved : crew'.duty.sweeper? = some (w.sweep d.world.state).1) :
      SweeperNext d n crew (some (.task n .sweep)) crew'

/-- What a hook hears leaves the sweeper as it is. -/
lemma sweeper?_hear (crew : Crew) (eager : Bool) (source : Option Channel) (s : State η) :
    (crew.hear eager source s).1.duty.sweeper? = crew.duty.sweeper? := by
  unfold hear
  split
  · split
    · exact Duty.sweeper?_withHook _ _
    · rfl
  · rfl

/-- What a hook removes leaves the sweeper as it is. -/
lemma sweeper?_purge (crew : Crew) (s : State η) :
    (crew.purge s).1.duty.sweeper? = crew.duty.sweeper? := by
  unfold purge
  split
  · exact Duty.sweeper?_withHook _ _
  · rfl

/-- A stop leaves the sweeper as it is until it has seen its end. -/
lemma sweeper?_proceed {s : State η} {w : Sweeper} (h : (crew.proceed s).1.duty.sweeper? = some w) :
    crew.duty.sweeper? = some w := by
  obtain ⟨duty, hand⟩ := crew
  cases duty with
  | serving tasks => exact h
  | leaving stop told =>
    cases stop with
    | sweeper w' hook =>
      simp only [proceed, Service.continueStop, Service.awaitSweeper] at h
      split at h
      · cases h
      · rename_i hfinished
        rw [Sweeper.shutDown_of_not_isFinished (Bool.eq_false_iff.mpr hfinished)] at h
        exact h
    | hook hook =>
      cases hand with
      | none => cases h
      | some name => cases h
    | finished => cases h

/-- **What becomes of the sweeper of a crew** in one act. -/
theorem Next.sweeperNext (h : Next a d n crew act crew') : SweeperNext d n crew act crew' := by
  cases h with
  | same act other => exact .still act crew (fun _ _ => other .tick) fun _ hw => hw
  | taken tasks serves =>
    refine .still _ _ (fun _ _ => by simp) ?_
    intro w hw
    rw [serves]
    exact hw
  | turned turn =>
    cases turn with
    | tick =>
      simp only [take, tick]
      split
      · rename_i w hsweeper
        split
        · rename_i hmay
          exact .ticked w _ hsweeper hmay (Duty.sweeper?_withSweeper hsweeper _)
        · rename_i hmay
          exact .still _ _ (fun hmay' _ => absurd hmay' hmay) fun _ hw => hw
      · rename_i hnone
        refine .still _ _ (fun _ hsome => ?_) fun _ hw => hw
        rw [hnone] at hsome
        cases hsome
    | sweep =>
      simp only [take, sweep]
      split
      · rename_i w hsweeper
        exact .swept w _ hsweeper (Duty.sweeper?_withSweeper hsweeper _)
      · exact .still _ _ (fun _ _ => by simp) fun _ hw => hw
    | hear =>
      refine .still _ _ (fun _ _ => by simp) ?_
      intro w hw
      rw [take, sweeper?_hear] at hw
      exact hw
    | purge =>
      refine .still _ _ (fun _ _ => by simp) ?_
      intro w hw
      rw [take, sweeper?_purge] at hw
      exact hw
    | proceed => exact .still _ _ (fun _ _ => by simp) fun _ hw => sweeper?_proceed hw

end Crew

/-! ## Timetables -/

namespace Course

/-- The sweeper of crew `n` runs for the first time in act `i`. -/
structure Begins (c : Course η) (n i : Nat) : Prop where
  act : c.acts[i]? = some (.task n .tick)
  fresh : ∃ crew w jitter, c.crew? n i = some crew ∧ crew.duty.sweeper? = some w ∧
    w.phase = .spawned jitter ∧ crew.duty.mayTick = true

/-- The first tick of a sweeper that runs for the first time in act `i`. -/
def firstTick (c : Course η) (p : Post) (i : Nat) : Instant :=
  c.now i + p.interval.nanos + p.jitter.nanos

/-- How a sweeper with this first tick may stand when act `k` comes: it waits for a tick on its
grid, or it has taken a tick, or a sink has broken down. -/
inductive Ticks (c : Course η) (p : Post) (first : Instant) (k : Nat) : Sweeper.Phase → Prop
  | asleep (m : Nat) :
      Ticks c p first k (.asleep (first + (m * Sweeper.period p.interval : Nat)))
  | awake (m : Nat) (since : first ≤ c.now k) :
      Ticks c p first k (.awake (first + (m * Sweeper.period p.interval : Nat)))
  | panicked (broken : ∃ i < k, (c.registry i).sinkIsFragile = true) :
      Ticks c p first k .panicked

variable {c : Course η} {p : Post} {first : Instant} {n i k : Nat} {w : Sweeper}

/-- A timetable is kept while the clock moves on. -/
lemma Ticks.succ {phase : Sweeper.Phase} (h : c.Ticks p first k phase) :
    c.Ticks p first (k + 1) phase := by
  cases h with
  | asleep m => exact .asleep m
  | awake m since => exact .awake m (Int.le_trans since (c.now_le (Nat.le_succ k)))
  | panicked broken =>
    obtain ⟨i, hik, hfragile⟩ := broken
    exact .panicked ⟨i, Nat.lt_succ_of_lt hik, hfragile⟩

/-- A sweeper that has a first tick runs already. -/
lemma Ticks.begin_eq (h : c.Ticks p first k w.phase) (now : Instant) : w.begin now = w := by
  unfold Sweeper.begin
  split
  · rename_i jitter hphase
    rw [hphase] at h
    cases h
  · rfl

/-- The first turn of a sweeper sets its first tick. -/
lemma ticks_begin (hlimit : c.now i + p.interval.nanos + p.interval.nanos < Instant.limit) :
    c.Ticks p (c.firstTick p i) (i + 1)
      ((p.recruit.begin (c.now i)).tick (c.now i)).phase := by
  have hjitter : p.jitter.nanos ≤ p.interval.nanos :=
    Nat.le_trans p.jitter_le (Nat.min_le_right _ _)
  have hten : 0 < Config.minSweepInterval.nanos := by decide
  have hinterval := p.minSweepInterval_le
  have hafter : (c.now i).after? p.interval.nanos = some (c.now i + p.interval.nanos) :=
    if_pos (by linarith)
  have hafter' : Instant.after? (c.now i + p.interval.nanos) p.jitter.nanos =
      some (c.firstTick p i) := if_pos (by linarith)
  have hdeadline : Sweeper.firstDeadline? (c.now i) p.interval p.jitter =
      some (c.firstTick p i) := by
    simp only [Sweeper.firstDeadline?, hafter, Option.bind_eq_bind, Option.bind_some, hafter']
  have hlater : ¬ c.firstTick p i ≤ c.now i := by
    have hpositive : (0 : Int) < p.interval.nanos :=
      Int.ofNat_lt.mpr (Nat.lt_of_lt_of_le hten hinterval)
    rw [firstTick]
    intro hle
    linarith
  simp only [p.recruit_eq, Sweeper.begin, hdeadline, Sweeper.tick, if_neg hlater]
  have hfirst : c.Ticks p (c.firstTick p i) (i + 1)
      (.asleep (c.firstTick p i + (0 * Sweeper.period p.interval : Nat))) := .asleep 0
  simpa using hfirst

/-- A tick that is taken leaves the next one on the same grid. -/
lemma Ticks.ticked (h : c.Ticks p first (k + 1) w.phase) (hinterval : w.interval = p.interval)
    (hlimit : c.now k + p.interval.nanos < Instant.limit) :
    c.Ticks p first (k + 1) (w.tick (c.now k)).phase := by
  unfold Sweeper.tick
  split
  · rename_i due hphase
    split
    · rename_i hdue
      obtain ⟨steps, hnext⟩ := Sweeper.exists_steps p.minSweepInterval_le hdue hlimit
      rw [hphase] at h
      rw [hinterval, hnext]
      cases h with
      | asleep m =>
        have hsince : first ≤ c.now (k + 1) := by
          refine Int.le_trans ?_ (Int.le_trans hdue (c.now_le (Nat.le_succ k)))
          exact Int.le_add_of_nonneg_right (Int.natCast_nonneg _)
        have hsum : first + ((m * Sweeper.period p.interval : Nat) : Int) +
            ((steps * Sweeper.period p.interval : Nat) : Int) =
              first + (((m + steps) * Sweeper.period p.interval : Nat) : Int) := by
          rw [Int.add_assoc, ← Int.natCast_add, ← Nat.add_mul]
        show c.Ticks p first (k + 1) (.awake (first +
          ((m * Sweeper.period p.interval : Nat) : Int) +
            ((steps * Sweeper.period p.interval : Nat) : Int)))
        rw [hsum]
        exact .awake (m + steps) hsince
    · exact h
  · exact h

/-- A sweep leaves the next tick as it is, unless a sink breaks down. -/
lemma Ticks.swept (h : c.Ticks p first k w.phase) :
    c.Ticks p first (k + 1) (w.sweep (c.before k).world.state).1.phase := by
  unfold Sweeper.sweep
  split
  · rename_i next hphase
    rw [hphase] at h
    dsimp only
    split
    · cases h with
      | awake m => exact .asleep m
    · rename_i hcompleted
      exact .panicked ⟨k, Nat.lt_succ_self k,
        Registry.sinkIsFragile_of_not_completed (Bool.eq_false_iff.mpr hcompleted)⟩
  · exact h.succ

/-! ### Sweepers that have not run yet -/

/-- A sweeper that had a turn is not one that has not run yet. -/
lemma not_spawned_turn (w : Sweeper) (now : Instant) (jitter : Duration) :
    ((w.begin now).tick now).phase ≠ .spawned jitter := by
  have hbegun : ∀ jitter, (w.begin now).phase ≠ .spawned jitter := by
    intro jitter
    unfold Sweeper.begin
    split
    · split <;> simp
    · rename_i hphase
      exact hphase jitter
  unfold Sweeper.tick
  split
  · split
    · split <;> simp
    · exact hbegun jitter
  · exact hbegun jitter

/-- A sweep leaves a sweeper that has not run yet as it is, and makes no other one look new. -/
lemma spawned_of_sweep {s : State η} {jitter : Duration}
    (h : (w.sweep s).1.phase = .spawned jitter) : (w.sweep s).1 = w := by
  unfold Sweeper.sweep at h ⊢
  split at h
  · dsimp only at h
    split at h <;> cases h
  · rfl

namespace Enlists

variable {j : Nat} {chance : Nat → Nat} {crew : Crew}

/-- What holds of the sweeper of a crew when it is spawned, and is kept by its turns and its sweeps,
holds of it whenever the crew has it. -/
lemma sweeper_induction {motive : Nat → Sweeper → Prop} (h : c.Enlists n j chance)
    (spawned : motive (j + 1) (Post.recruit ⟨j, c.authority.config, chance⟩))
    (still : ∀ k w, motive k w → motive (k + 1) w)
    (ticked : ∀ k crew w, c.acts[k]? = some (.task n .tick) → c.crew? n k = some crew →
      crew.duty.sweeper? = some w → crew.duty.mayTick = true → motive k w →
        motive (k + 1) ((w.begin (c.now k)).tick (c.now k)))
    (swept : ∀ k w, motive k w → motive (k + 1) (w.sweep (c.before k).world.state).1)
    (hjk : j < k) (hcrew : c.crew? n k = some crew) (hw : crew.duty.sweeper? = some w) :
    motive k w := by
  suffices hall : ∀ w, crew.duty.sweeper? = some w → motive k w from hall w hw
  refine h.crew_induction (motive := fun k crew => ∀ w, crew.duty.sweeper? = some w → motive k w)
    ?_ ?_ hjk hcrew
  · intro w hw
    exact Option.some.inj hw ▸ spawned
  · intro k crew crew' _ hcrew ih hnext w' hw'
    have hstep := hnext.sweeperNext
    generalize hact : c.acts[k]? = act at hstep
    cases hstep with
    | still _ _ _ kept => exact still k w' (ih w' (kept w' hw'))
    | ticked w _ hsweeper may moved =>
      obtain rfl := Option.some.inj (moved.symm.trans hw')
      exact ticked k crew w hact hcrew hsweeper may (ih w hsweeper)
    | swept w _ hsweeper moved =>
      obtain rfl := Option.some.inj (moved.symm.trans hw')
      exact swept k w (ih w hsweeper)

/-- The sweeper of a crew is as it was spawned until it has run. -/
lemma fresh_or_begun (h : c.Enlists n j chance) (hjk : j < k) (hcrew : c.crew? n k = some crew)
    (hw : crew.duty.sweeper? = some w) : w = Post.recruit ⟨j, c.authority.config, chance⟩ ∨
      (∃ i < k, c.Begins n i) ∧ ∀ jitter, w.phase ≠ .spawned jitter := by
  have hlater : ∀ {k}, (∃ i < k, c.Begins n i) → ∃ i < k + 1, c.Begins n i := by
    rintro k ⟨i, hik, hbegins⟩
    exact ⟨i, Nat.lt_succ_of_lt hik, hbegins⟩
  refine h.sweeper_induction (motive := fun k w =>
    w = Post.recruit ⟨j, c.authority.config, chance⟩ ∨
      (∃ i < k, c.Begins n i) ∧ ∀ jitter, w.phase ≠ .spawned jitter) (.inl rfl) ?still ?ticked
    ?swept hjk hcrew hw
  case still =>
    intro k w ih
    exact ih.imp_right fun hbegun => ⟨hlater hbegun.1, hbegun.2⟩
  case ticked =>
    intro k crew w hact hcrew hsweeper may ih
    refine .inr ⟨?_, not_spawned_turn w _⟩
    rcases ih with hfresh | ⟨hbegun, -⟩
    · have hspawned := congrArg Sweeper.phase (hfresh.trans (Post.recruit_eq _))
      exact ⟨k, Nat.lt_succ_self k, hact, crew, w, _, hcrew, hsweeper, hspawned, may⟩
    · exact hlater hbegun
  case swept =>
    intro k w ih
    rcases ih with hfresh | ⟨hbegun, hphase⟩
    · -- Only a sweeper that is awake sweeps.
      left
      rw [← hfresh]
      unfold Sweeper.sweep
      rw [hfresh, Post.recruit_eq]
    · refine .inr ⟨hlater hbegun, ?_⟩
      intro jitter hspawned
      rw [spawned_of_sweep hspawned] at hspawned
      exact hphase jitter hspawned

/-- A crew whose sweeper begins has been there for a while. -/
lemma lt_of_begins (h : c.Enlists n j chance) (hbegins : c.Begins n i) : j < i := by
  by_contra hij
  obtain ⟨crew, w, jitter, hcrew, -⟩ := hbegins.fresh
  rw [h.crew?_eq_none (not_lt.mp hij)] at hcrew
  cases hcrew

/-- After its first turn the sweeper of a crew has worked out its first deadline. -/
lemma eq_of_begins (h : c.Enlists n j chance) (hbegins : c.Begins n i)
    (hcrew : c.crew? n (i + 1) = some crew) (hw : crew.duty.sweeper? = some w) :
    w = ((Post.recruit ⟨j, c.authority.config, chance⟩).begin (c.now i)).tick (c.now i) := by
  obtain ⟨crew', w', jitter, hcrew', hw', hspawned, hmay⟩ := hbegins.fresh
  have hfresh : w' = Post.recruit ⟨j, c.authority.config, chance⟩ := by
    rcases h.fresh_or_begun (h.lt_of_begins hbegins) hcrew' hw' with hfresh | ⟨-, hphase⟩
    · exact hfresh
    · exact absurd hspawned (hphase jitter)
  obtain ⟨crew'', hcrew'', hnext⟩ := exists_next hcrew'
  obtain rfl : crew = crew'' := Option.some.inj (hcrew.symm.trans hcrew'')
  have hstep := hnext.sweeperNext
  rw [hbegins.act] at hstep
  generalize hact : some (Act.task n .tick) = act at hstep
  cases hstep with
  | still _ _ unmoved _ =>
    have hsome : crew'.duty.sweeper?.isSome = true := by rw [hw']; rfl
    exact absurd hact.symm (unmoved hmay hsome)
  | ticked w'' _ hsweeper _ moved =>
    obtain rfl : w' = w'' := Option.some.inj (hw'.symm.trans hsweeper)
    exact hfresh ▸ Option.some.inj (hw.symm.trans moved)
  | swept => cases hact

/-- What holds of the sweeper of a crew after its first turn, and is kept by its turns and its
sweeps, holds of it from then on. -/
lemma begun_induction {motive : Nat → Sweeper → Prop} (h : c.Enlists n j chance)
    (hbegins : c.Begins n i)
    (begun : motive (i + 1)
      (((Post.recruit ⟨j, c.authority.config, chance⟩).begin (c.now i)).tick (c.now i)))
    (still : ∀ k w, motive k w → motive (k + 1) w)
    (ticked : ∀ k w, motive k w → motive (k + 1) ((w.begin (c.now k)).tick (c.now k)))
    (swept : ∀ k w, motive k w → motive (k + 1) (w.sweep (c.before k).world.state).1)
    (hik : i < k) (hcrew : c.crew? n k = some crew) (hw : crew.duty.sweeper? = some w) :
    motive k w := by
  induction k, hik using Nat.le_induction generalizing crew w with
  | base => exact h.eq_of_begins hbegins hcrew hw ▸ begun
  | succ k hik ih =>
    obtain ⟨crew', hcrew'⟩ := h.exists_crew (Nat.lt_trans (h.lt_of_begins hbegins) hik)
    obtain ⟨crew'', hcrew'', hnext⟩ := exists_next hcrew'
    obtain rfl : crew = crew'' := Option.some.inj (hcrew.symm.trans hcrew'')
    have hstep := hnext.sweeperNext
    generalize c.acts[k]? = act at hstep
    cases hstep with
    | still _ _ _ kept => exact still k w (ih hcrew' (kept w hw))
    | ticked w' _ hsweeper _ moved =>
      obtain rfl := Option.some.inj (moved.symm.trans hw)
      exact ticked k w' (ih hcrew' hsweeper)
    | swept w' _ hsweeper moved =>
      obtain rfl := Option.some.inj (moved.symm.trans hw)
      exact swept k w' (ih hcrew' hsweeper)

/-- **The sweeper of a crew keeps to its timetable**, whatever happens meanwhile. -/
theorem terms_and_ticks (h : c.Enlists n j chance) (hbegins : c.Begins n i)
    (hlimit : ∀ k, c.now k + (Post.interval ⟨j, c.authority.config, chance⟩).nanos +
      (Post.interval ⟨j, c.authority.config, chance⟩).nanos < Instant.limit) (hik : i < k)
    (hcrew : c.crew? n k = some crew) (hw : crew.duty.sweeper? = some w) :
    w.interval = Post.interval ⟨j, c.authority.config, chance⟩ ∧
      c.Ticks ⟨j, c.authority.config, chance⟩
        (c.firstTick ⟨j, c.authority.config, chance⟩ i) k w.phase := by
  refine h.begun_induction (motive := fun k w =>
    w.interval = Post.interval ⟨j, c.authority.config, chance⟩ ∧
      c.Ticks ⟨j, c.authority.config, chance⟩
        (c.firstTick ⟨j, c.authority.config, chance⟩ i) k w.phase) hbegins ?begun ?still ?ticked
    ?swept hik hcrew hw
  case begun =>
    constructor
    · exact congrArg Prod.snd ((Sweeper.terms_tick _ _).trans ((Sweeper.terms_begin _ _).trans
        (congrArg Sweeper.terms (Post.recruit_eq _))))
    · exact ticks_begin (hlimit i)
  case still =>
    rintro k w ⟨hinterval, hticks⟩
    exact ⟨hinterval, hticks.succ⟩
  case ticked =>
    rintro k w ⟨hinterval, hticks⟩
    have hshort : c.now k + (Post.interval ⟨j, c.authority.config, chance⟩).nanos <
        Instant.limit := by
      have hlong := hlimit k
      have hpositive : (0 : Int) ≤ (Post.interval ⟨j, c.authority.config, chance⟩).nanos :=
        Int.natCast_nonneg _
      linarith
    rw [hticks.begin_eq]
    constructor
    · exact (congrArg Prod.snd (Sweeper.terms_tick w (c.now k))).trans hinterval
    · exact hticks.succ.ticked hinterval hshort
  case swept =>
    rintro k w ⟨hinterval, hticks⟩
    constructor
    · exact (congrArg Prod.snd (Sweeper.terms_sweep w _)).trans hinterval
    · exact hticks.swept

end Enlists

end Course

end Admittance
