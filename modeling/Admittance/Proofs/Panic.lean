import Admittance.Proofs.RoundTrip
import Admittance.Proofs.Timetable

/-!
# When a sweeper panics

A sweeper's task works out its first deadline when it runs for the first time, and panics if no
clock can hold that deadline.  The correction of a configuration gives the task a period that is not
zero and a jitter that is no longer than the interval, but it does not keep the interval from being
too long: with an interval that no clock can hold the task panics at once, and nobody sweeps
(`Sweeper.endless_panicked`).

This is all that can happen to it.  From then on ticks are never more than thirty years apart, and a
sweeper whose first deadline can be held only ever panics because a sink breaks down, as long as the
clock is thirty years away from its end (`Sweeper.panicConditions`).  The invariant is
`Sweeper.Sound`, which each operation of a sweeper keeps.  It is used twice, for a sweeper on a post
of its own and for those that an authority starts.
-/

namespace Admittance

variable {η : Type}

namespace Sweeper

/-! ## One operation -/

/-- How a sweeper may stand whose task has run: a clock can hold the tick that it waits for, and it
has not panicked without a cause. -/
inductive Sound (cause : Prop) : Phase → Prop
  | asleep (due : Instant) (held : due < Instant.limit) : Sound cause (.asleep due)
  | awake (next : Instant) (held : next < Instant.limit) : Sound cause (.awake next)
  | stopped : Sound cause .stopped
  | panicked (h : cause) : Sound cause .panicked

variable {cause cause' : Prop} {w : Sweeper} {now : Instant}

/-- What is a cause of a panic may be weakened. -/
lemma Sound.mono {phase : Phase} (h : Sound cause phase) (himp : cause → cause') :
    Sound cause' phase := by
  cases h with
  | asleep due held => exact .asleep due held
  | awake next held => exact .awake next held
  | stopped => exact .stopped
  | panicked h => exact .panicked (himp h)

/-- Only its first run sets the first deadline of a sweeper. -/
lemma Sound.begin_eq (h : Sound cause w.phase) (now : Instant) : w.begin now = w := by
  unfold begin
  split
  · rename_i jitter hphase
    rw [hphase] at h
    cases h
  · rfl

/-- The first run sets the first deadline, if a clock can hold it. -/
lemma phase_begin_of_lt {jitter : Duration} (hphase : w.phase = .spawned jitter)
    (hfirst : now + w.interval.nanos + jitter.nanos < (Instant.limit : Int)) :
    (w.begin now).phase = .asleep (now + w.interval.nanos + jitter.nanos) := by
  have hjitter : (0 : Int) ≤ jitter.nanos := Int.natCast_nonneg _
  have hinterval : now.after? w.interval.nanos = some (now + w.interval.nanos) :=
    if_pos (by linarith)
  have hsum : Instant.after? (now + w.interval.nanos) jitter.nanos =
      some (now + w.interval.nanos + jitter.nanos) := if_pos hfirst
  have hdeadline : firstDeadline? now w.interval jitter =
      some (now + w.interval.nanos + jitter.nanos) := by
    simp only [firstDeadline?, hinterval, Option.bind_eq_bind, Option.bind_some, hsum]
  simp only [begin, hphase, hdeadline]

/-- Otherwise it panics. -/
lemma phase_begin_of_not_lt {jitter : Duration} (hphase : w.phase = .spawned jitter)
    (hfirst : ¬ now + w.interval.nanos + jitter.nanos < (Instant.limit : Int)) :
    (w.begin now).phase = .panicked := by
  have hdeadline : firstDeadline? now w.interval jitter = none := by
    rw [firstDeadline?, Option.bind_eq_bind, Option.bind_eq_none_iff]
    intro due hdue
    obtain ⟨-, hsum⟩ := Option.ite_none_right_eq_some.mp hdue
    obtain rfl := Option.some.inj hsum
    exact if_neg hfirst
  simp only [begin, hphase, hdeadline]

/-- The next tick can be held thirty years before the end of the clock. -/
lemma exists_held (interval : Duration) {due : Instant}
    (hdue : due ≤ now) (hclock : now + longestPeriod < (Instant.limit : Int)) :
    ∃ next, nextDue? interval due now = some next ∧ next < Instant.limit := by
  have hperiod : (period interval : Int) ≤ longestPeriod := Int.ofNat_le.mpr (Nat.min_le_right _ _)
  have hdue' : (due : Int) ≤ now := hdue
  unfold nextDue?
  split
  · have hafter : due.after? (period interval) = some (due + period interval) :=
      if_pos (by linarith)
    exact ⟨_, congrArg some (congrArg (Option.getD · _) hafter), by
      show due + period interval < (Instant.limit : Int)
      linarith⟩
  · have hafter : now.after? (period interval) = some (now + period interval) :=
      if_pos (by linarith)
    have hmod : 0 ≤ (now - due) % (period interval : Int) := by
      rcases Nat.eq_zero_or_pos (period interval) with hzero | hpositive
      · rw [hzero, Int.natCast_zero, Int.emod_zero]
        linarith
      · exact Int.emod_nonneg _ (Int.natCast_ne_zero.mpr (Nat.ne_of_gt hpositive))
    refine ⟨_, congrArg (Option.map _) hafter, ?_⟩
    show now + period interval - (now - due) % (period interval : Int) < (Instant.limit : Int)
    linarith

/-- A sound sweeper can hold the tick after the one that it takes. -/
lemma Sound.tick (h : Sound cause w.phase) (hclock : now + longestPeriod < (Instant.limit : Int)) :
    Sound cause (w.tick now).phase := by
  unfold Sweeper.tick
  split
  · split
    · rename_i hdue
      obtain ⟨next, hnext, hheld⟩ := exists_held w.interval hdue hclock
      rw [hnext]
      exact .awake next hheld
    · exact h
  · exact h

/-- A sound sweeper that is told to stop stays sound. -/
lemma Sound.shutDown (h : Sound cause w.phase) (now : Instant) :
    Sound cause (w.shutDown now).phase := by
  unfold Sweeper.shutDown
  rw [h.begin_eq]
  split
  · exact .stopped
  · exact h

/-- A sound sweeper that sweeps panics for no other cause than its sink. -/
lemma Sound.sweep (h : Sound cause w.phase) (s : State η) :
    Sound (cause ∨ s.registry.sinkIsFragile = true) (w.sweep s).1.phase := by
  unfold Sweeper.sweep
  split
  · rename_i next hphase
    rw [hphase] at h
    dsimp only
    split
    · cases h with
      | awake _ held => exact .asleep next held
    · rename_i hcompleted
      exact .panicked
        (.inr (Registry.sinkIsFragile_of_not_completed (Bool.eq_false_iff.mpr hcompleted)))
  · exact h.mono .inl

/-! ### A task that has panicked -/

section Panicked

variable (h : w.phase = .panicked)
include h

/-- A sweeper that has panicked does not begin again. -/
lemma begin_of_panicked (now : Instant) : w.begin now = w := by
  simp only [begin, h]

/-- A sweeper that has panicked takes no tick. -/
lemma tick_of_panicked (now : Instant) : w.tick now = w := by
  simp only [tick, h]

/-- A sweeper that has panicked stays so when it is told to stop. -/
lemma phase_shutDown_of_panicked (now : Instant) : (w.shutDown now).phase = .panicked := by
  simp only [shutDown, begin, h]

/-- A sweeper that has panicked does not sweep. -/
lemma sweep_of_panicked (s : State η) : (w.sweep s).1 = w := by
  simp only [sweep, h]

end Panicked

end Sweeper

open Sweeper (Sound longestPeriod)

/-! ## A post of its own -/

namespace Post

variable (p : Post) {now : Instant}

/-- A sweeper is spawned with its jitter drawn and has not run yet. -/
lemma recruit_phase : p.recruit.phase = .spawned p.jitter := congrArg Sweeper.phase p.recruit_eq

/-- The first run of the sweeper of a post. -/
lemma phase_begin_of_lt (hfirst : now + p.interval.nanos + p.jitter.nanos < (Instant.limit : Int)) :
    (p.recruit.begin now).phase = .asleep (now + p.interval.nanos + p.jitter.nanos) :=
  Sweeper.phase_begin_of_lt p.recruit_phase hfirst

/-- A sweeper whose first deadline no clock can hold panics when it runs. -/
lemma phase_begin_of_not_lt
    (hfirst : ¬ now + p.interval.nanos + p.jitter.nanos < (Instant.limit : Int)) :
    (p.recruit.begin now).phase = .panicked :=
  Sweeper.phase_begin_of_not_lt p.recruit_phase hfirst

end Post

namespace Run

variable {ρ : Run η} {o : SearchOrder} {p : Post} {k : Nat} {w : Sweeper}

/-- **The sweeper of a post stays sound**, whenever its task has its turn and whenever it gets the
registry. -/
theorem Posted.sound (hfirst : ρ.firstTick o p < Instant.limit)
    (hclock : ∀ k, ρ.nowIn o k + longestPeriod < (Instant.limit : Int)) (h : ρ.Posted o p k w) :
    Sound (∃ j < k, (ρ.registryIn o j).sinkIsFragile = true) w.phase := by
  induction h with
  | begun =>
    rw [p.phase_begin_of_lt hfirst]
    exact .asleep _ hfirst
  | ticked _ ih => exact ih.tick (hclock _)
  | told _ ih => exact ih.shutDown _
  | @swept k w _ _ ih =>
    refine (ih.sweep (ρ.worldIn o k).state).mono ?_
    rintro (⟨j, hj, hfragile⟩ | hfragile)
    · exact ⟨j, Nat.lt_succ_of_lt hj, hfragile⟩
    · exact ⟨k, Nat.lt_succ_self k, hfragile⟩
  | elsewhere _ ih =>
    refine ih.mono ?_
    rintro ⟨j, hj, hfragile⟩
    exact ⟨j, Nat.lt_succ_of_lt hj, hfragile⟩

/-- A sweeper whose first deadline cannot be held never sweeps. -/
lemma Posted.panicked (hfirst : ¬ ρ.firstTick o p < Instant.limit) (h : ρ.Posted o p k w) :
    w.phase = .panicked := by
  induction h with
  | begun => exact p.phase_begin_of_not_lt hfirst
  | ticked _ ih => rw [Sweeper.tick_of_panicked ih, ih]
  | told _ ih => exact Sweeper.phase_shutDown_of_panicked ih _
  | swept _ _ ih => rw [Sweeper.sweep_of_panicked ih, ih]
  | elsewhere _ ih => exact ih

end Run

/-! ## Sweepers of authorities -/

namespace Course

variable {c : Course η} {n j i k : Nat} {chance : Nat → Nat} {crew : Crew} {w : Sweeper}

/-- The task of the sweeper of crew `n` has not run when act `k` comes, and may run in it, be it
that it is told to stop. -/
structure MayBegin (c : Course η) (n k : Nat) : Prop where
  act : c.acts[k]? = some (.task n .tick) ∨ c.acts[k]? = some (.task n .proceed)
  fresh : ∃ crew w jitter, c.crew? n k = some crew ∧ crew.duty.sweeper? = some w ∧
    w.phase = .spawned jitter

/-- The sink breaks down before act `k`. -/
def BrokenBefore (c : Course η) (k : Nat) : Prop := ∃ i < k, (c.registry i).sinkIsFragile = true

/-- A sink that has broken down has broken down for good. -/
lemma BrokenBefore.succ (h : c.BrokenBefore k) : c.BrokenBefore (k + 1) := by
  obtain ⟨i, hik, hfragile⟩ := h
  exact ⟨i, Nat.lt_succ_of_lt hik, hfragile⟩

namespace Enlists

/-- **The sweeper of a crew stays sound** once its task has run. -/
theorem sound (h : c.Enlists n j chance)
    (hfirst : ∀ k, c.MayBegin n k → c.firstTick ⟨j, c.authority.config, chance⟩ k < Instant.limit)
    (hclock : ∀ k, c.now k + longestPeriod < (Instant.limit : Int)) (hjk : j < k)
    (hcrew : c.crew? n k = some crew) (hw : crew.duty.sweeper? = some w) :
    w = Post.recruit ⟨j, c.authority.config, chance⟩ ∨ Sound (c.BrokenBefore k) w.phase := by
  refine h.sweeper_induction (motive := fun k w =>
    w = Post.recruit ⟨j, c.authority.config, chance⟩ ∨ Sound (c.BrokenBefore k) w.phase)
    (.inl rfl) ?still ?ticked ?swept hjk hcrew hw
  case still =>
    intro k w ih
    exact ih.imp_right fun hsound => hsound.mono BrokenBefore.succ
  case ticked =>
    intro k crew w hact hcrew hsweeper may ih
    right
    rcases ih with rfl | hsound
    · -- The task runs for the first time, and its first deadline can be held.
      have hbegins : c.MayBegin n k :=
        ⟨.inl hact, crew, _, _, hcrew, hsweeper, Post.recruit_phase _⟩
      have hsound : Sound (c.BrokenBefore (k + 1))
          ((Post.recruit ⟨j, c.authority.config, chance⟩).begin (c.now k)).phase := by
        rw [Post.phase_begin_of_lt _ (hfirst k hbegins)]
        exact .asleep _ (hfirst k hbegins)
      exact hsound.tick (hclock k)
    · rw [hsound.begin_eq]
      exact (hsound.mono BrokenBefore.succ).tick (hclock k)
  case swept =>
    intro k w ih
    rcases ih with rfl | hsound
    · left
      simp only [Sweeper.sweep, Post.recruit_phase]
    · refine .inr ((hsound.sweep _).mono ?_)
      rintro (hbroken | hfragile)
      · exact hbroken.succ
      · exact ⟨k, Nat.lt_succ_self k, hfragile⟩

/-- A stop finds the sweeper of a crew sound, too. -/
lemma sound_shutDown (h : c.Enlists n j chance)
    (hfirst : ∀ k, c.MayBegin n k → c.firstTick ⟨j, c.authority.config, chance⟩ k < Instant.limit)
    (hclock : ∀ k, c.now k + longestPeriod < (Instant.limit : Int)) (hjk : j < k)
    (hcrew : c.crew? n k = some crew) (hw : crew.duty.sweeper? = some w)
    (hact : c.acts[k]? = some (.task n .proceed)) :
    Sound (c.BrokenBefore k) (w.shutDown (c.now k)).phase := by
  rcases h.sound hfirst hclock hjk hcrew hw with rfl | hsound
  · have hbegins : c.MayBegin n k := ⟨.inr hact, crew, _, _, hcrew, hw, Post.recruit_phase _⟩
    simp only [Sweeper.shutDown, Post.phase_begin_of_lt _ (hfirst k hbegins)]
    exact .stopped
  · exact hsound.shutDown _

/-- A sweeper that an authority starts and whose first deadline cannot be held never sweeps. -/
lemma panicked (h : c.Enlists n j chance) (hbegins : c.Begins n i)
    (hfirst : ¬ c.firstTick ⟨j, c.authority.config, chance⟩ i < Instant.limit) (hik : i < k)
    (hcrew : c.crew? n k = some crew) (hw : crew.duty.sweeper? = some w) : w.phase = .panicked := by
  refine h.begun_induction (motive := fun _ w => w.phase = .panicked) hbegins ?begun
    (fun _ _ ih => ih) ?ticked ?swept hik hcrew hw
  case begun =>
    have hbegun : ((Post.recruit ⟨j, c.authority.config, chance⟩).begin (c.now i)).phase =
        .panicked := Post.phase_begin_of_not_lt _ hfirst
    rw [Sweeper.tick_of_panicked hbegun, hbegun]
  case ticked =>
    intro k w ih
    rw [Sweeper.begin_of_panicked ih, Sweeper.tick_of_panicked ih, ih]
  case swept =>
    intro k w ih
    rw [Sweeper.sweep_of_panicked ih, ih]

end Enlists

end Course

/-! ## All sweepers of a configuration -/

namespace Sweeper

/-- What becomes of the sweepers of a configuration as it is given, with a draw of their jitter. -/
structure PanicConditions (η : Type) (config : Config) (chance : Nat → Nat) : Prop where
  /-- The interval is no shorter than ten milliseconds, and so the period is not zero. -/
  interval : Config.minSweepInterval.nanos ≤ config.validated.sweepInterval.nanos
  period : 0 < Sweeper.period config.validated.sweepInterval
  jitter : config.validated.sweepJitter.nanos ≤ config.validated.sweepInterval.nanos
  /-- There is something to draw from, and what is drawn is no longer than the jitter. -/
  drawn : ∃ micros ≤ jitterLimit config.validated,
    (pickJitter config.validated chance).nanos = micros * nanosPerMicro ∧
      micros * nanosPerMicro ≤ config.validated.sweepJitter.nanos
  /-- The first run panics exactly where the first deadline cannot be held. -/
  first : ∀ now : Instant, ((spawn config chance).1.begin now).phase = .panicked ↔
    (Instant.limit : Int) ≤
      now + config.validated.sweepInterval.nanos + (pickJitter config.validated chance).nanos
  /-- Then nobody ever sweeps. -/
  lost : ∀ (ρ : Run η) (o : SearchOrder) (start : Nat),
    Instant.limit ≤ ρ.firstTick o ⟨start, config, chance⟩ →
      ∀ k w, ρ.Posted o ⟨start, config, chance⟩ k w → w.phase = .panicked
  lost_started : ∀ (c : Course η) (n j i : Nat), c.authority.config = config →
    c.Enlists n j chance → c.Begins n i → Instant.limit ≤ c.firstTick ⟨j, config, chance⟩ i →
      ∀ k > i, ∀ crew w, c.crew? n k = some crew → crew.duty.sweeper? = some w →
        w.phase = .panicked
  /-- Otherwise only a sink can break the task, and all further ticks can be held. -/
  sound : ∀ (ρ : Run η) (o : SearchOrder) (start : Nat),
    ρ.firstTick o ⟨start, config, chance⟩ < Instant.limit →
      (∀ k, ρ.nowIn o k + longestPeriod < (Instant.limit : Int)) →
        ∀ k w, ρ.Posted o ⟨start, config, chance⟩ k w →
          Sound (∃ j < k, (ρ.registryIn o j).sinkIsFragile = true) w.phase
  sound_started : ∀ (c : Course η) (n j : Nat), c.authority.config = config →
    c.Enlists n j chance →
      (∀ k, c.MayBegin n k → c.firstTick ⟨j, config, chance⟩ k < Instant.limit) →
        (∀ k, c.now k + longestPeriod < (Instant.limit : Int)) →
          ∀ k > j, ∀ crew w, c.crew? n k = some crew → crew.duty.sweeper? = some w →
            (w = (spawn config chance).1 ∨ Sound (c.BrokenBefore k) w.phase) ∧
              (c.acts[k]? = some (.task n .proceed) →
                Sound (c.BrokenBefore k) (w.shutDown (c.now k)).phase)

/-- **A sweeper panics if no clock can hold its first deadline, and else only for its sink**,
whoever spawns it, whenever, and with whatever configuration. -/
theorem panicConditions (η : Type) (config : Config) (chance : Nat → Nat) :
    PanicConditions η config chance := by
  have hinterval : Config.minSweepInterval.nanos ≤ config.validated.sweepInterval.nanos :=
    Post.minSweepInterval_le ⟨0, config, chance⟩
  constructor
  case interval => exact hinterval
  case period =>
    exact Nat.lt_of_le_of_lt (Nat.zero_le _) (tolerance_lt_period hinterval)
  case jitter =>
    rw [config.sweepJitter_validated]
    exact Nat.min_le_right _ _
  case drawn =>
    exact ⟨_, Nat.le_of_lt_succ (Nat.mod_lt _ (Nat.succ_pos _)), rfl, pickJitter_le _ chance⟩
  case first =>
    intro now
    rw [← not_lt]
    refine ⟨fun hpanicked hfirst => ?_, fun hfirst => ?_⟩
    · cases hpanicked.symm.trans (Post.phase_begin_of_lt ⟨0, config, chance⟩ hfirst)
    · exact Post.phase_begin_of_not_lt ⟨0, config, chance⟩ hfirst
  case lost => exact fun ρ o start hfirst k w hposted => hposted.panicked (not_lt.mpr hfirst)
  case lost_started =>
    rintro c n j i rfl henlists hbegins hfirst k hik crew w hcrew hw
    exact henlists.panicked hbegins (not_lt.mpr hfirst) hik hcrew hw
  case sound => exact fun ρ o start hfirst hclock k w hposted => hposted.sound hfirst hclock
  case sound_started =>
    rintro c n j rfl henlists hfirst hclock k hjk crew w hcrew hw
    exact ⟨henlists.sound hfirst hclock hjk hcrew hw,
      henlists.sound_shutDown hfirst hclock hjk hcrew hw⟩

/-- The longest interval that can be written, and no jitter. -/
def endless : Config :=
  { Config.standard with sweepInterval := .ofSeconds 0xffffffffffffffff, sweepJitter := .zero }

/-- It can be read from a text and nothing is corrected, and its sweeper panics at once. -/
theorem endless_panicked :
    Wire.decode (Wire.encode endless) = .ok endless ∧ endless.validate = (endless, []) ∧
      ((spawn endless fun _ => 0).1.begin 0).phase = .panicked :=
  ⟨Config.reads.faithful.decode_encode endless, by decide, by decide⟩

end Sweeper

end Admittance
