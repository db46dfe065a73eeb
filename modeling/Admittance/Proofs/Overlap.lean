import Admittance.Proofs.Announcement
import Admittance.Proofs.Rest

/-!
# Starts and stops that overlap

A stop takes the tasks out of the authority before it waits for their end.  A second stop therefore
finds nothing and returns at once, and the authority says that it does not run, while a sweeper may
still wait for the registry and a hook may not have been told to stop.  Whoever relies on the second
stop is mistaken (`Course.not_quiet_of_overlap`), and a start that comes in between adds a second
sweeper and a second hook to those that are on their way out (`Course.two_of_overlap`).

What is left is that the last stop to return is right: once there are no tasks and all stops that
were called have returned, nothing but explicit calls changes the registry until the next start
(`Course.registry_succ_of_returned`).
-/

namespace Admittance

variable {η : Type}

namespace Course

variable {c : Course η} {n i k : Nat} {crew : Crew}

/-- A crew that does not serve any more was taken by a stop that found it last. -/
lemma exists_stop (hcrew : c.crew? n k = some crew) (hserves : crew.duty.tasks? = none) :
    ∃ i < k, c.acts[i]? = some .stop ∧ (c.before i).tasks?.isSome = true ∧
      n + 1 = (c.before i).crews.length := by
  induction k generalizing crew with
  | zero => cases hcrew
  | succ k ih =>
    have hlater : (∃ i < k, c.acts[i]? = some .stop ∧ (c.before i).tasks?.isSome = true ∧
        n + 1 = (c.before i).crews.length) → ∃ i < k + 1, c.acts[i]? = some .stop ∧
          (c.before i).tasks?.isSome = true ∧ n + 1 = (c.before i).crews.length := by
      rintro ⟨i, hik, hfound⟩
      exact ⟨i, Nat.lt_succ_of_lt hik, hfound⟩
    rcases crew?_succ hcrew with ⟨chance, -, rfl⟩ | ⟨crew', hcrew', hnext⟩
    · cases hserves
    · generalize hact : c.acts[k]? = act at hnext
      cases hnext with
      | same => exact hlater (ih hcrew' hserves)
      | taken tasks serves =>
        have hlt : n < (c.before k).crews.length := (List.getElem?_eq_some_iff.mp hcrew').1
        have hlast : n + 1 = (c.before k).crews.length := by
          by_contra hearlier
          have hnone := tasks?_of_not_last hcrew' (by omega)
          rw [serves] at hnone
          cases hnone
        refine ⟨k, Nat.lt_succ_self k, hact, ?_, hlast⟩
        rw [Deployment.tasks?_of_last hcrew' hlast, serves]
        rfl
      | turned turn =>
        refine hlater (ih hcrew' ?_)
        rw [← Option.not_isSome_iff_eq_none] at hserves ⊢
        rwa [Crew.isSome_tasks?_take] at hserves

/-- **Where no stop is waiting any more, an authority without tasks is at rest.** -/
theorem atRest_of_returned (hstopped : (c.before k).tasks? = none)
    (hreturned : ∀ i < k, c.acts[i]? = some .stop → c.Returned i k) : (c.before k).AtRest := by
  refine atRest_iff.mpr ⟨hstopped, List.any_eq_false.mpr ?_⟩
  intro crew hmem hleaving
  obtain ⟨n, hcrew⟩ := List.mem_iff_getElem?.mp hmem
  have hserves : crew.duty.tasks? = none := by
    cases hduty : crew.duty with
    | serving => rw [hduty] at hleaving; cases hleaving
    | leaving => rfl
  obtain ⟨i, hik, hact, hrunning, hlast⟩ := exists_stop hcrew hserves
  rcases (hreturned i hik hact).seen with hnone | ⟨crew', hcrew', hover⟩
  · rw [hnone] at hrunning
    cases hrunning
  · have hindex : (c.before i).crews.length - 1 = n := by omega
    rw [hindex] at hcrew'
    obtain rfl : crew = crew' := Option.some.inj (hcrew.symm.trans hcrew')
    rw [Duty.isLeaving_of_isOver hover] at hleaving
    cases hleaving

/-- **Once all stops have returned, however they overlapped, nothing but explicit calls changes the
registry** of an authority without tasks, until the next start. -/
theorem registry_succ_of_returned (hstopped : (c.before i).tasks? = none)
    (hreturned : ∀ m < i, c.acts[m]? = some .stop → c.Returned m i) (hik : i ≤ k)
    (hstart : ∀ m, i ≤ m → m < k → ∀ chance, c.acts[m]? ≠ some (.start chance))
    (hrequest : ∀ m, c.acts[k]? ≠ some (.request m)) : c.registry (k + 1) = c.registry k :=
  registry_succ_of_atRest (atRest_of_le (atRest_of_returned hstopped hreturned) hik hstart) hrequest

/-- A session has been idle for a day and ten seconds, and the sweeper has taken a tick and waits
for the registry.  One stop waits for it; another one comes and returns at once.  Then the sweeper
gets the registry, and the first stop sees the end of both tasks. -/
def waited : Course Unit where
  authority := .sample .reverify
  start := .initial 0 none ()
  source := some (.withCapacity 4)
  acts := [.start fun _ => 0, .task 0 .tick,
    .request (.arrive 0 (.create "desk" "ann" "room" .empty)), .request (.enter 0 true),
    .request (.wait 86410000000000), .task 0 .tick, .stop, .task 0 .proceed, .stop, .task 0 .sweep,
    .task 0 .proceed, .task 0 .proceed, .task 0 .sweep]

/-- When both stops have returned, an act of the sweeper changes nothing any more. -/
theorem waited_registry_succ :
    (waited.before 12).tasks? = none ∧ waited.Returned 6 12 ∧ waited.Returned 8 12 ∧
      waited.registry 13 = waited.registry 12 := by
  have hstopped : (waited.before 12).tasks? = none := by decide
  have hfirst : waited.Returned 6 12 := ⟨rfl, by decide, .inr ⟨_, rfl, rfl⟩⟩
  have hsecond : waited.Returned 8 12 := ⟨rfl, by decide, .inl (by decide)⟩
  have hreturned : ∀ m < 12, waited.acts[m]? = some .stop → waited.Returned m 12 := by
    intro m hm hact
    match m with
    | 6 => exact hfirst
    | 8 => exact hsecond
    | 0 | 1 | 2 | 3 | 4 | 5 | 7 | 9 | 10 | 11 => cases hact
    | m + 12 => omega
  refine ⟨hstopped, hfirst, hsecond, ?_⟩
  exact registry_succ_of_returned hstopped hreturned (Nat.le_refl 12) (by omega)
    (by simp [waited])

/-- What a host would expect of any stop. -/
structure Quiet (c : Course η) : Prop where
  /-- There are no two sweepers at work, and no two hooks that hold a receiver. -/
  one : ∀ k, (c.before k).sweepers.countP (!·.isFinished) ≤ 1 ∧ (c.before k).receivers ≤ 1
  /-- Once a stop has returned, nothing but explicit calls changes the registry until the next
  start. -/
  stopped : ∀ i k, c.Returned i k →
    (∀ m, i < m → m < k → ∀ chance, c.acts[m]? ≠ some (.start chance)) →
      (∀ m, c.acts[k]? ≠ some (.request m)) → c.registry (k + 1) = c.registry k
  /-- Nor does anything else while the authority says that it does not run. -/
  answered : ∀ i k, (c.before i).tasks? = none → i ≤ k →
    (∀ m, i ≤ m → m < k → ∀ chance, c.acts[m]? ≠ some (.start chance)) →
      (∀ m, c.acts[k]? ≠ some (.request m)) → c.registry (k + 1) = c.registry k

/-- The second stop has returned when the sweeper gets the registry. -/
def stopDuringStop : Course Unit := { waited with acts := waited.acts.take 10 }

/-- The hook has heard of the end of a conference and waits for the registry when the authority is
stopped. -/
def purgeAfterStop : Course Unit where
  authority := .sample .reverify
  start := .initial 0 none ()
  source := some (.withCapacity 4)
  acts := [.start fun _ => 0, .request (.arrive 0 (.create "desk" "ann" "room" .empty)),
    .request (.enter 0 true), .announce "room" false, .task 0 .hear, .stop, .task 0 .purge]

/-- A start comes while a stop still waits for the sweeper. -/
def startDuringStop : Course Unit := { waited with
  acts := waited.acts.take 8 ++ [.start fun _ => 0] }

/-- The second stop has returned, and the sweeper removes a session. -/
theorem not_quiet_of_overlap :
    stopDuringStop.Returned 8 9 ∧ (∀ m, stopDuringStop.acts[9]? ≠ some (.request m)) ∧
      (stopDuringStop.registry 9).tokens = [.ofNumber 0] ∧
      (stopDuringStop.registry 10).tokens = [] :=
  ⟨⟨rfl, by decide, .inl (by decide)⟩, by simp [stopDuringStop, waited], by decide, by decide⟩

/-- The authority says that it does not run, and the hook removes a session. -/
theorem not_quiet_of_answer :
    (purgeAfterStop.before 6).tasks? = none ∧ (∀ m, purgeAfterStop.acts[6]? ≠ some (.request m)) ∧
      (purgeAfterStop.registry 6).tokens = [.ofNumber 0] ∧
      (purgeAfterStop.registry 7).tokens = [] :=
  ⟨by decide, by simp [purgeAfterStop], by decide, by decide⟩

/-- Two sweepers are at work, and two hooks hold a receiver. -/
theorem two_of_overlap :
    (startDuringStop.before 9).sweepers.countP (!·.isFinished) = 2 ∧
      (startDuringStop.before 9).receivers = 2 :=
  ⟨by decide, by decide⟩

/-- **Overlapping stops do not keep what one stop promises.** -/
theorem not_quiet : ¬ stopDuringStop.Quiet ∧ ¬ purgeAfterStop.Quiet ∧ ¬ startDuringStop.Quiet := by
  refine ⟨?_, ?_, ?_⟩
  · intro h
    obtain ⟨hreturned, hrequest, hbefore, hafter⟩ := not_quiet_of_overlap
    have hsame := h.stopped 8 9 hreturned (by omega) hrequest
    rw [← hsame, hafter] at hbefore
    cases hbefore
  · intro h
    obtain ⟨hstopped, hrequest, hbefore, hafter⟩ := not_quiet_of_answer
    have hsame := h.answered 6 6 hstopped (Nat.le_refl 6) (by omega) hrequest
    rw [← hsame, hafter] at hbefore
    cases hbefore
  · intro h
    have hone := (h.one 9).1
    rw [two_of_overlap.1] at hone
    omega

end Course

end Admittance
