import Admittance.Host
import Admittance.Proofs.History
import Mathlib.Tactic.Linarith

/-!
# When a sweeper sweeps

A sweeper waits for its first tick, takes a tick when it is free, waits for the registry, sweeps,
and waits for the next tick on its grid.  Meanwhile the clock may leap over any number of ticks, and
the registry may be changed or held by others at any time.  `Run.Posted` says how a sweeper may
stand before a move of a run: nothing is assumed of when its task has its turn and of when it gets
the registry.

Still it never sweeps too early and never takes a session that has been used within its lifetime,
and whenever it has nothing to do, no session has been idle for its lifetime and an interval
(`Run.expiryBounds`).  The invariant is `Run.Standing`: a sweeper that waits for a tick other than
its first one has swept at most an interval before it, and whatever is live now was spared then or
has been used since.
-/

namespace Admittance

variable {η : Type}

/-! ## The grid of ticks -/

namespace Sweeper

/-- The period of the ticks is no longer than the interval. -/
lemma period_le (interval : Duration) : period interval ≤ interval.nanos := Nat.min_le_left _ _

/-- An interval that a configuration may have is longer than the delay of a tick that counts as on
time. -/
lemma tolerance_lt_period {interval : Duration}
    (h : Config.minSweepInterval.nanos ≤ interval.nanos) : tolerance < period interval :=
  Nat.lt_of_lt_of_le (by decide : tolerance < min Config.minSweepInterval.nanos longestPeriod)
    (min_le_min_right longestPeriod h)

/-- A tick lies after the moment at which the one before it is taken. -/
lemma lt_of_nextDue?_eq_some {interval : Duration} {due now next : Int}
    (hinterval : Config.minSweepInterval.nanos ≤ interval.nanos)
    (hnext : nextDue? interval due now = some next) : now < next := by
  have htolerance : (tolerance : Int) < period interval :=
    Int.ofNat_lt.mpr (tolerance_lt_period hinterval)
  have hlongest : (0 : Int) < longestPeriod := by decide
  unfold nextDue? Instant.after? at hnext
  split at hnext
  · split at hnext
    · rw [Option.getD_some, Option.some.injEq] at hnext
      linarith
    · rw [Option.getD_none, Option.some.injEq] at hnext
      linarith
  · split at hnext
    · have hmod := Int.emod_lt_of_pos (now - due) (by omega : (0 : Int) < period interval)
      rw [Option.map_some, Option.some.injEq] at hnext
      linarith
    · cases hnext

/-- **The next tick** is a point of the grid, and it comes within a period of the moment at which
a tick is taken, however late that is. -/
theorem exists_nextDue {interval : Duration} {due now : Int}
    (hinterval : Config.minSweepInterval.nanos ≤ interval.nanos) (hdue : due ≤ now)
    (hlimit : now + interval.nanos < (Instant.limit : Int)) :
    ∃ next : Int, nextDue? interval due now = some next ∧ next ≤ now + period interval ∧
      ∃ m : Int, next = due + m * period interval := by
  have hle : (period interval : Int) ≤ interval.nanos := Int.ofNat_le.mpr (period_le interval)
  have htolerance := tolerance_lt_period hinterval
  by_cases hlate : now ≤ due + tolerance
  · have hafter : Instant.after? due (period interval) = some (due + period interval) :=
      if_pos (by linarith)
    refine ⟨due + period interval, ?_, by omega, 1, by omega⟩
    rw [nextDue?, if_pos hlate, hafter, Option.getD_some]
  · have hafter : Instant.after? now (period interval) = some (now + period interval) :=
      if_pos (by linarith)
    have hmod := Int.emod_nonneg (now - due) (by omega : (period interval : Int) ≠ 0)
    refine ⟨now + period interval - (now - due) % period interval, ?_, by omega,
      (now - due) / period interval + 1, ?_⟩
    · rw [nextDue?, if_neg hlate, hafter, Option.map_some]
    · have hdiv := Int.mul_ediv_add_emod (now - due) (period interval)
      linarith

/-! ### What a sweeper keeps -/

/-- How long a session may be idle and how often a sweeper looks for it. -/
def terms (w : Sweeper) : Duration × Duration := (w.lifetime, w.interval)

section Terms

variable (w : Sweeper) (now : Instant)

/-- A sweeper keeps its terms when its task begins. -/
lemma terms_begin : (w.begin now).terms = w.terms := by
  unfold begin
  split
  · split <;> rfl
  · rfl

/-- A sweeper keeps its terms when it takes a tick. -/
lemma terms_tick : (w.tick now).terms = w.terms := by
  unfold tick
  split
  · split
    · split <;> rfl
    · rfl
  · rfl

/-- A sweeper keeps its terms when it is told to stop. -/
lemma terms_shutDown : (w.shutDown now).terms = w.terms := by
  unfold shutDown
  split <;> rfl

/-- A sweeper keeps its terms when it sweeps. -/
lemma terms_sweep (s : State η) : (w.sweep s).1.terms = w.terms := by
  unfold sweep
  split
  · dsimp only
    split <;> rfl
  · rfl

end Terms

/-- A sweeper has nothing to do at a moment, also if nobody else wants the registry. -/
structure Settled (w : Sweeper) (now : Instant) : Prop where
  begun : w.begin now = w
  undue : w.tick now = w
  asleep : w.isAwake = false

/-- A sweeper that waits for a tick has nothing to do until then. -/
lemma settled_of_asleep {w : Sweeper} {due now : Int} (hphase : w.phase = .asleep due)
    (hdue : now < due) : w.Settled now := by
  refine ⟨by simp only [begin, hphase], ?_, by simp only [isAwake, hphase]⟩
  simp only [tick, hphase]
  rw [if_neg (not_le.mpr hdue)]

/-- A sweeper that has nothing to do but waits for a tick will have to wait for it. -/
lemma Settled.lt_due {w : Sweeper} {due now : Int} (h : w.Settled now)
    (hphase : w.phase = .asleep due) : now < due := by
  by_contra hlate
  have hundue := congrArg Sweeper.phase h.undue
  simp only [tick, hphase, if_pos (not_lt.mp hlate)] at hundue
  cases hnext : nextDue? w.interval due now with
  | some next => simp [hnext] at hundue
  | none => simp [hnext] at hundue

/-- A sweeper that has had its turn and the registry has nothing to do. -/
lemma settled_turn {w : Sweeper} {s : State η}
    (hinterval : Config.minSweepInterval.nanos ≤ w.interval.nanos) (hbegun : w.begin s.now = w)
    (hasleep : w.isAwake = false) : ((w.tick s.now).sweep s).1.Settled s.now := by
  have hover : ∀ phase, phase = .stopped ∨ phase = .panicked →
      Settled { w with phase := phase } s.now := by
    rintro phase (rfl | rfl) <;> exact ⟨rfl, rfl, rfl⟩
  cases hphase : w.phase with
  | spawned jitter =>
    have hphase' := congrArg Sweeper.phase hbegun
    simp only [begin, hphase] at hphase'
    cases hdeadline : firstDeadline? s.now w.interval jitter <;> simp [hdeadline] at hphase'
  | asleep due =>
    by_cases hdue : due ≤ s.now
    · cases hnext : nextDue? w.interval due s.now with
      | none =>
        simp only [tick, hphase, if_pos hdue, hnext, sweep]
        exact hover _ (.inr rfl)
      | some next =>
        simp only [tick, hphase, if_pos hdue, hnext, sweep]
        split
        · exact settled_of_asleep rfl (lt_of_nextDue?_eq_some hinterval hnext)
        · exact hover _ (.inr rfl)
    · simp only [tick, hphase, if_neg hdue, sweep]
      exact settled_of_asleep hphase (not_le.mp hdue)
  | awake next => simp [isAwake, hphase] at hasleep
  | stopped | panicked =>
    simp only [tick, hphase, sweep]
    exact ⟨hbegun, by simp only [tick, hphase], hasleep⟩

end Sweeper

/-! ## A sweeper's post -/

/-- A sweeper of a configuration as it is given, which is spawned before move `start`. -/
structure Post where
  start : Nat
  config : Config
  chance : Nat → Nat

namespace Post

variable (p : Post)

/-- The sweeper before it runs for the first time. -/
def recruit : Sweeper := (Sweeper.spawn p.config p.chance).1

/-- The time between two ticks. -/
def interval : Duration := p.config.validated.sweepInterval

/-- How long a session may be idle. -/
def lifetime : Duration := p.config.lifetime

/-- The delay of the first tick. -/
def jitter : Duration := Sweeper.pickJitter p.config.validated p.chance

/-- A sweeper is spawned with the terms and the jitter of its post. -/
lemma recruit_eq : p.recruit = ⟨p.lifetime, p.interval, .spawned p.jitter⟩ := by
  rw [lifetime, ← Config.lifetime_validated]
  rfl

/-- The interval is the one that was asked for, or the shortest one that is allowed. -/
lemma interval_eq :
    p.interval.nanos = max p.config.sweepInterval.nanos Config.minSweepInterval.nanos :=
  p.config.sweepInterval_validated

/-- No interval is shorter than the shortest one that is allowed. -/
lemma minSweepInterval_le : Config.minSweepInterval.nanos ≤ p.interval.nanos :=
  p.interval_eq ▸ Nat.le_max_right _ _

/-- No jitter is longer than was asked for, nor than the interval. -/
lemma jitter_le : p.jitter.nanos ≤ min p.config.sweepJitter.nanos p.interval.nanos :=
  p.config.sweepJitter_validated ▸ Sweeper.pickJitter_le p.config.validated p.chance

end Post

namespace Run

variable {ρ : Run η} {o : SearchOrder} {p : Post} {k : Nat} {w : Sweeper}

/-- The moment of the first tick. -/
def firstTick (ρ : Run η) (o : SearchOrder) (p : Post) : Instant :=
  ρ.nowIn o p.start + p.interval.nanos + p.jitter.nanos

/-- How the sweeper of a post may stand before a move.  A host lets the task of a new sweeper run
before it moves the clock; whatever comes later may come at any time. -/
inductive Posted (ρ : Run η) (o : SearchOrder) (p : Post) : Nat → Sweeper → Prop
  | begun : Posted ρ o p p.start (p.recruit.begin (ρ.nowIn o p.start))
  /-- Its task has its turn, and takes a tick if one is due. -/
  | ticked {k : Nat} {w : Sweeper} (h : Posted ρ o p k w) : Posted ρ o p k (w.tick (ρ.nowIn o k))
  /-- It is told to stop. -/
  | told {k : Nat} {w : Sweeper} (h : Posted ρ o p k w) : Posted ρ o p k (w.shutDown (ρ.nowIn o k))
  /-- Move `k` lets it have the registry. -/
  | swept {k : Nat} {w : Sweeper} (h : Posted ρ o p k w) (move : ρ.moves[k]? = some (.sweep w)) :
      Posted ρ o p (k + 1) (w.sweep (ρ.worldIn o k).state).1
  /-- Move `k` is about something else. -/
  | elsewhere {k : Nat} {w : Sweeper} (h : Posted ρ o p k w) : Posted ρ o p (k + 1) w

/-- The sweeper of a post stands so before move `k`, which lets it sweep the registry. -/
structure Patrols (ρ : Run η) (o : SearchOrder) (p : Post) (k : Nat) (w : Sweeper) : Prop where
  posted : ρ.Posted o p k w
  isAwake : w.isAwake = true
  move : ρ.moves[k]? = some (.sweep w)

/-- Move `k` opens a session of the token, or attaches a connection to it. -/
def Touches (ρ : Run η) (o : SearchOrder) (k : Nat) (t : SessionToken) : Prop :=
  (∃ x, ρ.opening? o k = some x ∧ x.token = t) ∨ ρ.attachedTo? o k = some t

/-- Whatever is live has been used within a sweeper's lifetime before `last`, or since. -/
def FreshSince (ρ : Run η) (o : SearchOrder) (p : Post) (k : Nat) (last : Instant) : Prop :=
  ∀ x ∈ (ρ.registryIn o k).sessions, last ≤ x.lastActivity + p.lifetime.nanos

/-- How the sweeper of a post stands to the registry. -/
inductive Standing (ρ : Run η) (o : SearchOrder) (p : Post) (k : Nat) : Sweeper.Phase → Prop
  /-- It waits for its first tick. -/
  | first : Standing ρ o p k (.asleep (ρ.firstTick o p))
  /-- It waits for a tick, and last swept at most an interval before it. -/
  | asleep (next last : Instant) (since : ρ.firstTick o p ≤ last) (until_now : last ≤ ρ.nowIn o k)
      (near : next ≤ last + p.interval.nanos) (fresh : ρ.FreshSince o p k last) :
      Standing ρ o p k (.asleep next)
  /-- It has taken a tick, and the next one will come within an interval. -/
  | awake (next : Instant) (since : ρ.firstTick o p ≤ ρ.nowIn o k)
      (near : next ≤ ρ.nowIn o k + p.interval.nanos) : Standing ρ o p k (.awake next)
  | stopped : Standing ρ o p k .stopped
  /-- A sink has broken down. -/
  | panicked (broken : ∃ j < k, (ρ.registryIn o j).sinkIsFragile = true) :
      Standing ρ o p k .panicked

/-! ### What happens meanwhile -/

/-- What was fresh before a move is fresh after it, for what is used is used now. -/
lemma FreshSince.succ {last : Instant} (h : ρ.FreshSince o p k last)
    (hlast : last ≤ ρ.nowIn o k) : ρ.FreshSince o p (k + 1) last := by
  intro x hx
  rcases (ρ.turnover o k).origin hx with ⟨y, hy, -, hused⟩ | ⟨y, -, -, hused⟩
  · have hy' := h y hy
    rw [hused]
    split <;> linarith
  · rw [hused]
    linarith

/-- Whatever else happens, a sweeper stands as before. -/
lemma Standing.succ {phase : Sweeper.Phase} (h : ρ.Standing o p k phase) :
    ρ.Standing o p (k + 1) phase := by
  have hnow := ρ.nowIn_le_succ o k
  cases h with
  | first => exact .first
  | asleep next last since until_now near fresh =>
    exact .asleep next last since (by linarith) near (fresh.succ until_now)
  | awake next since near => exact .awake next (by linarith) (by linarith)
  | stopped => exact .stopped
  | panicked broken =>
    obtain ⟨j, hj, hfragile⟩ := broken
    exact .panicked ⟨j, by omega, hfragile⟩

/-! ### What the sweeper does -/

/-- A sweeper whose task begins waits for its first tick. -/
lemma Standing.begun (hfirst : ρ.firstTick o p < Instant.limit) :
    ρ.Standing o p p.start (p.recruit.begin (ρ.nowIn o p.start)).phase := by
  rw [firstTick] at hfirst
  have hinterval : (ρ.nowIn o p.start).after? p.interval.nanos =
      some (ρ.nowIn o p.start + p.interval.nanos) := if_pos (by linarith)
  have hjitter : Instant.after? (ρ.nowIn o p.start + p.interval.nanos) p.jitter.nanos =
      some (ρ.firstTick o p) := if_pos hfirst
  have hdeadline : Sweeper.firstDeadline? (ρ.nowIn o p.start) p.interval p.jitter =
      some (ρ.firstTick o p) := by
    simp only [Sweeper.firstDeadline?, hinterval, Option.bind_eq_bind, Option.bind_some, hjitter]
  simp only [p.recruit_eq, Sweeper.begin, hdeadline]
  exact .first

/-- A tick that is due is not taken before the first tick is due. -/
lemma Standing.firstTick_le {due : Instant} (h : ρ.Standing o p k (.asleep due))
    (hdue : due ≤ ρ.nowIn o k) : ρ.firstTick o p ≤ ρ.nowIn o k := by
  cases h with
  | first => exact hdue
  | asleep _ last since until_now _ _ => exact Int.le_trans since until_now

/-- A sweeper that takes a tick goes on in good standing. -/
lemma Standing.ticked (h : ρ.Standing o p k w.phase) (hinterval : w.interval = p.interval)
    (hlimit : ρ.nowIn o k + p.interval.nanos < Instant.limit) :
    ρ.Standing o p k (w.tick (ρ.nowIn o k)).phase := by
  unfold Sweeper.tick
  split
  · rename_i due hphase
    split
    · rename_i hdue
      obtain ⟨next, hnext, hnear, -⟩ :=
        Sweeper.exists_nextDue p.minSweepInterval_le hdue hlimit
      have hperiod : (Sweeper.period p.interval : Int) ≤ p.interval.nanos :=
        Int.ofNat_le.mpr (Sweeper.period_le p.interval)
      rw [hinterval, hnext]
      exact .awake next ((hphase ▸ h).firstTick_le hdue) (by linarith)
    · exact h
  · exact h

/-- A sweeper that has a post runs already. -/
lemma Standing.begin_eq (h : ρ.Standing o p k w.phase) (now : Instant) : w.begin now = w := by
  unfold Sweeper.begin
  split
  · rename_i jitter hphase
    rw [hphase] at h
    cases h
  · rfl

/-- A sweeper that is told to stop goes on in good standing. -/
lemma Standing.told (h : ρ.Standing o p k w.phase) :
    ρ.Standing o p k (w.shutDown (ρ.nowIn o k)).phase := by
  unfold Sweeper.shutDown
  rw [h.begin_eq]
  split
  · exact .stopped
  · exact h

/-- The registry after a sweeper has had it. -/
lemma mem_registryIn_succ_of_sweep (hawake : w.isAwake = true)
    (hmove : ρ.moves[k]? = some (.sweep w)) {x : Session} :
    x ∈ (ρ.registryIn o (k + 1)).sessions ↔
      x ∈ ((ρ.registryIn o k).sweep (ρ.nowIn o k) w.lifetime).registry.sessions := by
  have hregistry := (Sweeper.sweep_unchanged_of_isAwake hawake (ρ.worldIn o k).state).registry
  rw [registryIn, worldIn_succ hmove, World.arranged]
  refine Registry.mem_arranged.trans ?_
  simp only [World.step, hregistry]
  exact Iff.rfl

/-- What a sweep spares has been used within the sweeper's lifetime. -/
lemma freshSince_of_sweep (hlifetime : w.lifetime = p.lifetime) (hawake : w.isAwake = true)
    (hmove : ρ.moves[k]? = some (.sweep w))
    (hcompleted :
      ((ρ.registryIn o k).sweep (ρ.nowIn o k) w.lifetime).value.completed = true) :
    ρ.FreshSince o p (k + 1) (ρ.nowIn o k) := by
  intro x hx
  have hspared := (mem_registryIn_succ_of_sweep hawake hmove).mp hx
  obtain ⟨-, hnot⟩ := (Registry.mem_removeWhere hcompleted).mp hspared
  have hidle : (x.idleFor (ρ.nowIn o k) : Int) ≤ p.lifetime.nanos := by
    rw [← hlifetime]
    exact Int.ofNat_le.mpr (not_lt.mp (of_decide_eq_false hnot))
  have hage : ρ.nowIn o k - x.lastActivity ≤ x.idleFor (ρ.nowIn o k) := Int.self_le_toNat _
  linarith

/-- After a sweep all that is live is fresh, and the next tick comes within an interval. -/
lemma Standing.swept (h : ρ.Standing o p k w.phase) (hlifetime : w.lifetime = p.lifetime)
    (hmove : ρ.moves[k]? = some (.sweep w)) :
    ρ.Standing o p (k + 1) (w.sweep (ρ.worldIn o k).state).1.phase := by
  cases hphase : w.phase with
  | awake next =>
    have hawake : w.isAwake = true := by simp only [Sweeper.isAwake, hphase]
    rw [hphase] at h
    cases h with
    | awake _ since near =>
      cases hcompleted : ((ρ.registryIn o k).sweep (ρ.nowIn o k) w.lifetime).value.completed with
      | true =>
        have hdone := hcompleted
        simp only [registryIn, nowIn] at hdone
        simp only [Sweeper.sweep, hphase, hdone, if_true]
        exact .asleep next (ρ.nowIn o k) since (ρ.nowIn_le_succ o k) near
          (freshSince_of_sweep hlifetime hawake hmove hcompleted)
      | false =>
        have hbroken := hcompleted
        simp only [registryIn, nowIn] at hbroken
        simp only [Sweeper.sweep, hphase, hbroken, Bool.false_eq_true, if_false]
        exact .panicked ⟨k, Nat.lt_succ_self k, Registry.sinkIsFragile_of_not_completed hcompleted⟩
  | spawned | asleep | stopped | panicked =>
    have hsame : (w.sweep (ρ.worldIn o k).state).1 = w := by simp only [Sweeper.sweep, hphase]
    rw [hsame]
    exact h.succ

/-- **How the sweeper of a post stands**, whenever its task has its turn and whenever it gets the
registry. -/
theorem Posted.standing (hfirst : ρ.firstTick o p < Instant.limit)
    (hlimit : ∀ k, ρ.nowIn o k + p.interval.nanos < Instant.limit) (h : ρ.Posted o p k w) :
    w.terms = (p.lifetime, p.interval) ∧ ρ.Standing o p k w.phase := by
  induction h with
  | begun =>
    rw [Sweeper.terms_begin, p.recruit_eq]
    exact ⟨rfl, p.recruit_eq ▸ .begun hfirst⟩
  | ticked _ ih =>
    obtain ⟨hterms, hstanding⟩ := ih
    exact ⟨(Sweeper.terms_tick ..).trans hterms,
      hstanding.ticked (congrArg Prod.snd hterms) (hlimit _)⟩
  | told _ ih =>
    obtain ⟨hterms, hstanding⟩ := ih
    exact ⟨(Sweeper.terms_shutDown ..).trans hterms, hstanding.told⟩
  | swept _ hmove ih =>
    obtain ⟨hterms, hstanding⟩ := ih
    exact ⟨(Sweeper.terms_sweep ..).trans hterms,
      hstanding.swept (congrArg Prod.fst hterms) hmove⟩
  | elsewhere _ ih => exact ⟨ih.1, ih.2.succ⟩

/-- It is not awake before its first tick is due. -/
lemma Standing.firstTick_le_of_awake (h : ρ.Standing o p k w.phase) (hawake : w.isAwake = true) :
    ρ.firstTick o p ≤ ρ.nowIn o k := by
  unfold Sweeper.isAwake at hawake
  split at hawake
  · rename_i next hphase
    rw [hphase] at h
    cases h with
    | awake _ since _ => exact since
  · cases hawake

/-- From its first tick on, it lets no session be idle for its lifetime and an interval. -/
lemma Standing.idleFor_lt (h : ρ.Standing o p k w.phase) (hrunning : w.isFinished = false)
    (hsettled : w.Settled (ρ.nowIn o k)) (hsince : ρ.firstTick o p ≤ ρ.nowIn o k) :
    ∀ x ∈ (ρ.registryIn o k).sessions,
      x.idleFor (ρ.nowIn o k) < p.lifetime.nanos + p.interval.nanos := by
  intro x hx
  cases hphase : w.phase with
  | asleep due =>
    have hdue := hsettled.lt_due hphase
    rw [hphase] at h
    cases h with
    | first => exact absurd hsince (not_le.mpr hdue)
    | asleep _ last _ _ near fresh =>
      have hfresh := fresh x hx
      have hten : 0 < Config.minSweepInterval.nanos := by decide
      have hpositive : 0 < p.lifetime.nanos + p.interval.nanos :=
        Nat.add_pos_right _ (Nat.lt_of_lt_of_le hten p.minSweepInterval_le)
      refine (Int.toNat_lt' hpositive).mpr ?_
      push_cast
      linarith
  | awake next =>
    have hasleep := hsettled.asleep
    simp [Sweeper.isAwake, hphase] at hasleep
  | spawned jitter => rw [hphase] at h; cases h
  | stopped | panicked => simp [Sweeper.isFinished, hphase] at hrunning

/-! ### What the sessions keep -/

/-- A session that is live has been used no earlier than its token was last used. -/
lemma Touches.nowIn_le {i : Nat} {t : SessionToken} (h : ρ.Touches o i t) (hik : i < k) :
    ∀ x ∈ (ρ.registryIn o k).sessions, x.token = t → ρ.nowIn o i ≤ x.lastActivity := by
  induction k, hik using Nat.le_induction with
  | base =>
    intro x hx ht
    rcases (ρ.turnover o i).origin hx with ⟨y, hy, hbinding, hused⟩ | ⟨y, -, -, hused⟩
    · have hyt : y.token = t := (congrArg Binding.token hbinding).symm.trans ht
      rcases h with ⟨z, hopened, hzt⟩ | hattached
      · have hlive : (ρ.registryIn o i).IsLive y.token :=
          Registry.isLive_of_mem (Registry.binding_mem hy)
        exact absurd (hyt.trans hzt.symm ▸ hlive) ((ρ.turnover o i).opens z hopened).1
      · rw [hused, if_pos (hyt ▸ hattached)]
    · rw [hused]
  | succ k hik ih =>
    intro x hx ht
    have hnow := ρ.nowIn_le o (Nat.le_of_succ_le hik)
    rcases (ρ.turnover o k).origin hx with ⟨y, hy, hbinding, hused⟩ | ⟨y, -, -, hused⟩
    · have hbefore := ih y hy ((congrArg Binding.token hbinding).symm.trans ht)
      rw [hused]
      split
      · exact hnow
      · exact hbefore
    · rw [hused]
      exact hnow

/-- A sweeper takes only what has been idle for longer than its lifetime. -/
lemma expired_of_swept {t : SessionToken} (hawake : w.isAwake = true)
    (hmove : ρ.moves[k]? = some (.sweep w)) (hlive : (ρ.registryIn o k).IsLive t)
    (hgone : ¬ (ρ.registryIn o (k + 1)).IsLive t) :
    ∃ x ∈ (ρ.registryIn o k).sessions, x.token = t ∧
      x.lastActivity + w.lifetime.nanos < ρ.nowIn o k := by
  obtain ⟨x, hget⟩ := Registry.isLive_iff_get?.mp hlive
  obtain ⟨hx, rfl⟩ := Registry.get?_eq_some hget
  have hexpired : x.isExpired (ρ.nowIn o k) w.lifetime = true := by
    by_contra hspared
    have hmem : x ∈ (ρ.registryIn o (k + 1)).sessions :=
      (mem_registryIn_succ_of_sweep hawake hmove).mpr
        (Registry.mem_removeWhere_of_spared hx (Bool.eq_false_iff.mpr hspared))
    exact hgone (Registry.isLive_of_mem (Registry.binding_mem hmem))
  have hidle : (w.lifetime.nanos : Int) < ρ.nowIn o k - x.lastActivity :=
    Int.lt_toNat.mp (of_decide_eq_true hexpired)
  exact ⟨x, hx, rfl, by linarith⟩

/-- A sweep opens no session and attaches no connection. -/
lemma not_touches_of_sweep (hmove : ρ.moves[k]? = some (.sweep w)) (t : SessionToken) :
    ¬ ρ.Touches o k t := by
  rintro (⟨x, hopened, -⟩ | hattached)
  · simp [opening?, hmove, Move.entered?] at hopened
  · simp [attachedTo?, attachment?, hmove, Move.entered?, attachedTo] at hattached

/-! ### Whole runs -/

/-- The clock stands still when nothing happens any more. -/
lemma nowIn_le_last (ρ : Run η) (o : SearchOrder) (k : Nat) :
    ρ.nowIn o k ≤ ρ.nowIn o ρ.moves.length := by
  rcases Nat.le_total k ρ.moves.length with hk | hk
  · exact ρ.nowIn_le o hk
  · induction k, hk using Nat.le_induction with
    | base => exact Int.le_refl _
    | succ k hk ih =>
      rw [nowIn, worldIn_succ_of_none (List.getElem?_eq_none hk)]
      exact ih

/-- When the sweeper of a post sweeps, and what it takes. -/
structure ExpiryBounds (ρ : Run η) (o : SearchOrder) (p : Post) : Prop where
  /-- Ten milliseconds are the shortest interval. -/
  interval : p.interval.nanos =
    max p.config.sweepInterval.nanos Config.minSweepInterval.nanos
  jitter : p.jitter.nanos ≤ min p.config.sweepJitter.nanos p.interval.nanos
  /-- It does not sweep before its first tick is due. -/
  not_early : ∀ k w, ρ.Patrols o p k w → ρ.firstTick o p ≤ ρ.nowIn o k
  /-- It takes no session that has been opened or used within its lifetime. -/
  idle_only : ∀ k w, ρ.Patrols o p k w → ∀ t, (ρ.registryIn o k).IsLive t →
    ¬ (ρ.registryIn o (k + 1)).IsLive t →
      ∀ i ≤ k, ρ.nowIn o k - p.lifetime.nanos ≤ ρ.nowIn o i → ¬ ρ.Touches o i t
  /-- Whenever it has nothing to do, from the first tick on, no session has been idle for its
  lifetime and an interval. -/
  fresh : ∀ k w, ρ.Posted o p k w → w.isFinished = false → w.Settled (ρ.nowIn o k) →
    ρ.firstTick o p ≤ ρ.nowIn o k → ∀ x ∈ (ρ.registryIn o k).sessions,
      x.idleFor (ρ.nowIn o k) < p.lifetime.nanos + p.interval.nanos
  /-- It has nothing to do once it has had its turn and, if it wants it, the registry. -/
  settles : ∀ k w, ρ.Posted o p k w → w.isAwake = false →
    ((w.tick (ρ.nowIn o k)).sweep (ρ.worldIn o k).state).1.Settled (ρ.nowIn o k)
  /-- It runs until it is told to stop, unless a sink breaks down. -/
  runs : ∀ k w, ρ.Posted o p k w → w.phase = .panicked →
    ∃ j < k, (ρ.registryIn o j).sinkIsFragile = true

/-- **A sweeper is never early and never late**, whatever its interval, its jitter and its
lifetime, however far the clock leaps, and whatever happens to the registry. -/
theorem expiryBounds (o : SearchOrder) (p : Post) (hfirst : ρ.firstTick o p < Instant.limit)
    (hlimit : ρ.nowIn o ρ.moves.length + p.interval.nanos < Instant.limit) :
    ρ.ExpiryBounds o p := by
  have hlimit' : ∀ k, ρ.nowIn o k + p.interval.nanos < Instant.limit := fun k => by
    have hlast := ρ.nowIn_le_last o k
    linarith
  constructor
  case interval => exact p.interval_eq
  case jitter => exact p.jitter_le
  case not_early =>
    rintro k w ⟨hposted, hawake, -⟩
    obtain ⟨-, hstanding⟩ := hposted.standing hfirst hlimit'
    exact hstanding.firstTick_le_of_awake hawake
  case idle_only =>
    rintro k w ⟨hposted, hawake, hmove⟩ t hlive hgone i hik hrecent htouches
    obtain ⟨hterms, -⟩ := hposted.standing hfirst hlimit'
    obtain ⟨x, hx, hxt, hexpired⟩ := expired_of_swept hawake hmove hlive hgone
    rcases Nat.lt_or_eq_of_le hik with hik | rfl
    · have hused := htouches.nowIn_le hik x hx hxt
      have hlifetime : w.lifetime = p.lifetime := congrArg Prod.fst hterms
      rw [hlifetime] at hexpired
      linarith
    · exact not_touches_of_sweep hmove t htouches
  case fresh =>
    intro k w hposted hrunning hsettled hsince x hx
    exact (hposted.standing hfirst hlimit').2.idleFor_lt hrunning hsettled hsince x hx
  case settles =>
    intro k w hposted hasleep
    obtain ⟨hterms, hstanding⟩ := hposted.standing hfirst hlimit'
    have hinterval : w.interval = p.interval := congrArg Prod.snd hterms
    exact Sweeper.settled_turn (hinterval ▸ p.minSweepInterval_le) (hstanding.begin_eq _) hasleep
  case runs =>
    intro k w hposted hphase
    obtain ⟨-, hstanding⟩ := hposted.standing hfirst hlimit'
    rw [hphase] at hstanding
    cases hstanding with
    | panicked broken => exact broken

/-- Two sessions are opened, and the clock leaps over four ticks of a sweeper.  Before the sweeper
gets the registry, one of the sessions is used. -/
def delayed : Run Unit where
  authority := .sample .reverify
  start := .initial 0 none ()
  moves := [.arrive 0 (.create "desk" "ann" "room" .empty), .enter 0 true,
    .arrive 1 (.create "lamp" "bob" "room" .empty), .enter 1 true, .wait 45000000,
    .arrive 2 (.attach (.ofNumber 1) ⟨"wire"⟩), .enter 2 true,
    .sweep ⟨.sampleLifetime, Config.minSweepInterval, .awake 51000000⟩, .wait 5000000]

/-- The sweeper asks for an interval that is too short, and draws a jitter of a millisecond. -/
def brief : Post := ⟨0, ⟨.sampleLifetime, .ofMillis 4, false, .ofMillis 2⟩, fun _ => 1000⟩

/-- Late for its tick, the sweeper is about to sweep. -/
lemma posted_delayed :
    delayed.Posted .alternating brief 7 ⟨.ofMillis 20, .ofMillis 10, .awake 51000000⟩ := by
  have hbegun : delayed.Posted .alternating brief 0
      ⟨.ofMillis 20, .ofMillis 10, .asleep 11000000⟩ := .begun
  have hlater := hbegun.elsewhere.elsewhere.elsewhere.elsewhere.elsewhere
  exact hlater.ticked.elsewhere.elsewhere

/-- A sweep that comes late spares what was used in its lifetime. -/
theorem delayed_expiryBounds :
    delayed.firstTick .alternating brief < Instant.limit ∧
      delayed.nowIn .alternating delayed.moves.length + brief.interval.nanos < Instant.limit ∧
      delayed.ExpiryBounds .alternating brief ∧
      delayed.Patrols .alternating brief 7 ⟨.ofMillis 20, .ofMillis 10, .awake 51000000⟩ ∧
      (delayed.registryIn .alternating 7).tokens = [.ofNumber 0, .ofNumber 1] ∧
      (delayed.registryIn .alternating 8).tokens = [.ofNumber 1] ∧
      delayed.Posted .alternating brief 9 ⟨.ofMillis 20, .ofMillis 10, .asleep 51000000⟩ ∧
      Sweeper.Settled ⟨.ofMillis 20, .ofMillis 10, .asleep 51000000⟩
        (delayed.nowIn .alternating 9) :=
  ⟨by decide, by decide, expiryBounds .alternating brief (by decide) (by decide),
    ⟨posted_delayed, rfl, rfl⟩, by decide, by decide, (posted_delayed.swept rfl).elsewhere,
    Sweeper.settled_of_asleep rfl (by decide)⟩

end Run

end Admittance
