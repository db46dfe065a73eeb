import Admittance.Proofs.Course

/-!
# When nothing is left of the tasks

An authority is at rest when the stop of every crew has returned (`Deployment.AtRest`).  From then
until the next start only explicit calls change its registry.  It is at rest just when it has no
tasks and no stop is under way, for no crew but the last one ever serves (`Course.atRest_iff`); and
where starts and stops are called one after the other, it is at rest as soon as one stop has
returned (`Course.Returned.atRest`).
-/

namespace Admittance

variable {η : Type}

/-! ## Duties -/

namespace Duty

/-- Another sweeper makes no difference to whether a crew serves. -/
@[simp] lemma isSome_tasks?_withSweeper (duty : Duty) (w : Sweeper) :
    (duty.withSweeper w).tasks?.isSome = duty.tasks?.isSome := by
  cases duty with
  | serving => rfl
  | leaving stop => cases stop <;> rfl

/-- Another hook makes no difference to whether a crew serves. -/
@[simp] lemma isSome_tasks?_withHook (duty : Duty) (hook : Hook) :
    (duty.withHook hook).tasks?.isSome = duty.tasks?.isSome := by
  cases duty with
  | serving => rfl
  | leaving stop => cases stop <;> rfl

/-- Whoever neither serves nor leaves has left. -/
lemma isOver_of_not_leaving {duty : Duty} (hserves : duty.tasks? = none)
    (hleaves : duty.isLeaving = false) : duty.isOver = true := by
  cases duty with
  | serving => cases hserves
  | leaving stop =>
    cases stop with
    | sweeper | hook => cases hleaves
    | finished => rfl

/-- A crew whose stop has returned does not serve. -/
lemma tasks?_of_isOver {duty : Duty} (h : duty.isOver = true) : duty.tasks? = none := by
  obtain ⟨told, rfl⟩ := eq_of_isOver h
  rfl

/-- A crew whose stop has returned is not about to leave. -/
lemma isLeaving_of_isOver {duty : Duty} (h : duty.isOver = true) : duty.isLeaving = false := by
  obtain ⟨told, rfl⟩ := eq_of_isOver h
  rfl

/-- A crew whose stop has returned has no sweeper. -/
lemma sweeper?_of_isOver {duty : Duty} (h : duty.isOver = true) : duty.sweeper? = none := by
  obtain ⟨told, rfl⟩ := eq_of_isOver h
  rfl

/-- A crew whose stop has returned has no hook. -/
lemma hook?_of_isOver {duty : Duty} (h : duty.isOver = true) : duty.hook? = none := by
  obtain ⟨told, rfl⟩ := eq_of_isOver h
  rfl

end Duty

namespace Crew

/-- No turn of a crew makes it serve or keeps it from serving. -/
lemma isSome_tasks?_take (crew : Crew) (eager : Bool) (source : Option Channel) (s : State η)
    (turn : Turn) :
    (crew.take eager source s turn).1.duty.tasks?.isSome = crew.duty.tasks?.isSome := by
  cases turn with
  | tick =>
    simp only [take, tick]
    split
    · split
      · exact Duty.isSome_tasks?_withSweeper _ _
      · rfl
    · rfl
  | sweep =>
    simp only [take, sweep]
    split
    · exact Duty.isSome_tasks?_withSweeper _ _
    · rfl
  | hear =>
    simp only [take, hear]
    split
    · split
      · exact Duty.isSome_tasks?_withHook _ _
      · rfl
    · rfl
  | purge =>
    simp only [take, purge]
    split
    · exact Duty.isSome_tasks?_withHook _ _
    · rfl
  | proceed =>
    simp only [take, proceed]
    split
    · rfl
    · rfl
    · rename_i stop _ _ _ hduty _
      rw [hduty]
      rfl

variable {a : Authority η} {d : Deployment η} {n : Nat} {crew crew' : Crew} {act : Option Act}

/-- Who does not serve will never serve again. -/
lemma Next.tasks?_eq_none (h : Next a d n crew act crew') (hserves : crew.duty.tasks? = none) :
    crew'.duty.tasks? = none := by
  cases h with
  | same => exact hserves
  | taken => rfl
  | turned turn =>
    rw [← Option.not_isSome_iff_eq_none, isSome_tasks?_take, hserves]
    decide

/-- **Over is over.** -/
lemma Next.isOver (h : Next a d n crew act crew') (hover : crew.duty.isOver = true) :
    crew'.duty.isOver = true := by
  cases h with
  | same => exact hover
  | taken tasks serves =>
    rw [serves] at hover
    cases hover
  | turned turn => exact (take_of_isOver _ _ _ hover turn).1

end Crew

/-! ## Rest -/

namespace Deployment

variable (d : Deployment η)

/-- The stops of all crews have returned. -/
def AtRest : Prop := ∀ crew ∈ d.crews, crew.duty.isOver = true

variable {d}

/-- An authority at rest has no tasks. -/
lemma AtRest.tasks?_eq_none (h : d.AtRest) : d.tasks? = none := by
  rw [tasks?, Option.bind_eq_none_iff]
  intro crew hcrew
  exact Duty.tasks?_of_isOver (h crew (List.mem_of_getLast? hcrew))

/-- An authority at rest is in no stop. -/
lemma AtRest.isStopping_eq_false (h : d.AtRest) : d.isStopping = false := by
  rw [isStopping, List.any_eq_false]
  intro crew hcrew
  rw [Duty.isLeaving_of_isOver (h crew hcrew)]
  decide

/-- The authority's tasks are those of the last crew. -/
lemma tasks?_of_last {n : Nat} {crew : Crew} (hcrew : d.crews[n]? = some crew)
    (hlast : n + 1 = d.crews.length) : d.tasks? = crew.duty.tasks? := by
  have hindex : d.crews.length - 1 = n := by omega
  rw [tasks?, List.getLast?_eq_getElem?, hindex, hcrew, Option.bind_some]

end Deployment

namespace Course

variable {c : Course η} {n k : Nat} {crew : Crew}

/-- No crew but the last one serves. -/
lemma tasks?_of_not_last (hcrew : c.crew? n k = some crew)
    (hlast : n + 1 < (c.before k).crews.length) : crew.duty.tasks? = none := by
  induction k generalizing crew with
  | zero => cases hcrew
  | succ k ih =>
    rcases crew?_succ hcrew with ⟨chance, henlists, -⟩ | ⟨crew', hcrew', hnext⟩
    · rw [henlists.length_crews] at hlast
      omega
    · rcases (c.before k).crews_after c.authority c.acts[k]? with
        hsame | ⟨chance, hact, hstopped, hcrews⟩
      · have hlength : (c.before (k + 1)).crews.length = (c.before k).crews.length := hsame
        exact hnext.tasks?_eq_none (ih hcrew' (hlength ▸ hlast))
      · -- A start has found no tasks, so the crew that was the last one did not serve.
        have hlt : n < (c.before k).crews.length := (List.getElem?_eq_some_iff.mp hcrew').1
        refine hnext.tasks?_eq_none ?_
        rcases Nat.lt_or_eq_of_le hlt with hlt' | heq
        · exact ih hcrew' hlt'
        · exact (Deployment.tasks?_of_last hcrew' heq).symm.trans hstopped

/-- **An authority is at rest** just when it has no tasks and no stop is under way. -/
theorem atRest_iff :
    (c.before k).AtRest ↔ (c.before k).tasks? = none ∧ (c.before k).isStopping = false := by
  constructor
  · intro h
    exact ⟨h.tasks?_eq_none, h.isStopping_eq_false⟩
  · rintro ⟨hstopped, hidle⟩ crew hmem
    obtain ⟨n, hcrew⟩ := List.mem_iff_getElem?.mp hmem
    have hlt : n < (c.before k).crews.length := (List.getElem?_eq_some_iff.mp hcrew).1
    have hserves : crew.duty.tasks? = none := by
      rcases Nat.lt_or_eq_of_le hlt with hlt' | heq
      · exact tasks?_of_not_last hcrew hlt'
      · exact (Deployment.tasks?_of_last hcrew heq).symm.trans hstopped
    have hleaves : crew.duty.isLeaving = false :=
      Bool.eq_false_iff.mpr (List.any_eq_false.mp hidle crew hmem)
    exact Duty.isOver_of_not_leaving hserves hleaves

/-- An authority at rest stays so until it is started. -/
lemma atRest_succ (h : (c.before k).AtRest) (hstart : ∀ chance, c.acts[k]? ≠ some (.start chance)) :
    (c.before (k + 1)).AtRest := by
  intro crew hmem
  obtain ⟨n, hcrew⟩ := List.mem_iff_getElem?.mp hmem
  rcases crew?_succ hcrew with ⟨chance, henlists, -⟩ | ⟨crew', hcrew', hnext⟩
  · exact absurd henlists.act (hstart chance)
  · exact hnext.isOver (h crew' (List.mem_of_getElem? hcrew'))

/-- An authority at rest stays so until the next start. -/
lemma atRest_of_le {i : Nat} (h : (c.before i).AtRest) (hik : i ≤ k)
    (hstart : ∀ m, i ≤ m → m < k → ∀ chance, c.acts[m]? ≠ some (.start chance)) :
    (c.before k).AtRest := by
  induction k, hik using Nat.le_induction with
  | base => exact h
  | succ k hik ih =>
    refine atRest_succ (ih fun m him hmk => hstart m him (Nat.lt_succ_of_lt hmk)) ?_
    exact hstart k hik (Nat.lt_succ_self k)

/-- Without a start there are no new crews. -/
lemma length_crews_eq {i : Nat} (hik : i ≤ k)
    (hstart : ∀ m, i ≤ m → m < k → ∀ chance, c.acts[m]? ≠ some (.start chance)) :
    (c.before k).crews.length = (c.before i).crews.length := by
  induction k, hik using Nat.le_induction with
  | base => rfl
  | succ k hik ih =>
    rw [← ih fun m him hmk => hstart m him (Nat.lt_succ_of_lt hmk)]
    rcases (c.before k).crews_after c.authority c.acts[k]? with hsame | ⟨chance, hact, -, -⟩
    · exact hsame
    · exact absurd hact (hstart k hik (Nat.lt_succ_self k) chance)

/-- **Nothing but explicit calls changes the registry of an authority at rest.** -/
theorem registry_succ_of_atRest (h : (c.before k).AtRest)
    (hrequest : ∀ m, c.acts[k]? ≠ some (.request m)) : c.registry (k + 1) = c.registry k := by
  have hdeed := c.deed k
  simp only [registry, Deployment.registry]
  generalize hact : c.acts[k]? = act, (c.before (k + 1)).world.state = s at hdeed ⊢
  cases hdeed with
  | requested m => exact absurd hact (hrequest m)
  | swept n crew w hcrew hsweeper =>
    rw [Duty.sweeper?_of_isOver (h crew (List.mem_of_getElem? hcrew))] at hsweeper
    cases hsweeper
  | purged n crew hook name hcrew hhook =>
    rw [Duty.hook?_of_isOver (h crew (List.mem_of_getElem? hcrew))] at hhook
    cases hhook
  | idle _ unchanged => exact unchanged.registry

/-! ## Returning stops -/

/-- Act `i` is a stop that has returned when act `k` comes: either it found no tasks, or the crew
that it took is over. -/
structure Returned (c : Course η) (i k : Nat) : Prop where
  act : c.acts[i]? = some .stop
  earlier : i < k
  seen : (c.before i).tasks? = none ∨
    ∃ crew, c.crew? ((c.before i).crews.length - 1) k = some crew ∧ crew.duty.isOver = true

/-- Starts and stops are called one after the other, and none before the last stop has returned. -/
def Orderly (c : Course η) : Prop :=
  ∀ k < c.acts.length, c.acts[k]?.any Act.isSwitch = true → (c.before k).isStopping = false

instance (c : Course η) : Decidable c.Orderly :=
  inferInstanceAs (Decidable (∀ k < c.acts.length, c.acts[k]?.any Act.isSwitch = true →
    (c.before k).isStopping = false))

/-- Where starts and stops come one after the other, none comes during a stop. -/
lemma Orderly.isStopping (h : c.Orderly) {act : Act} (hact : c.acts[k]? = some act)
    (hswitch : act.isSwitch = true) : (c.before k).isStopping = false := by
  refine h k (List.getElem?_eq_some_iff.mp hact).1 ?_
  rw [hact, Option.any_some, hswitch]

/-- Where starts and stops come one after the other, at most one crew is not over. -/
lemma Orderly.isOver_of_not_last (h : c.Orderly) (hcrew : c.crew? n k = some crew)
    (hlast : n + 1 < (c.before k).crews.length) : crew.duty.isOver = true := by
  induction k generalizing crew with
  | zero => cases hcrew
  | succ k ih =>
    rcases crew?_succ hcrew with ⟨chance, henlists, -⟩ | ⟨crew', hcrew', hnext⟩
    · rw [henlists.length_crews] at hlast
      omega
    · rcases (c.before k).crews_after c.authority c.acts[k]? with
        hsame | ⟨chance, hact, hstopped, hcrews⟩
      · have hlength : (c.before (k + 1)).crews.length = (c.before k).crews.length := hsame
        exact hnext.isOver (ih hcrew' (hlength ▸ hlast))
      · have hrest := atRest_iff.mpr ⟨hstopped, h.isStopping hact rfl⟩
        exact hnext.isOver (hrest crew' (List.mem_of_getElem? hcrew'))

/-- **Where starts and stops come one after the other, an authority is at rest as soon as a stop has
returned**, and until the next start. -/
theorem Returned.atRest {i : Nat} (h : c.Returned i k) (horderly : c.Orderly)
    (hstart : ∀ m, i < m → m < k → ∀ chance, c.acts[m]? ≠ some (.start chance)) :
    (c.before k).AtRest := by
  have hearlier := h.earlier
  have hstart' : ∀ m, i ≤ m → m < k → ∀ chance, c.acts[m]? ≠ some (.start chance) := by
    intro m him hmk chance
    rcases Nat.lt_or_eq_of_le him with hlt | rfl
    · exact hstart m hlt hmk chance
    · rw [h.act]
      simp
  rcases h.seen with hstopped | ⟨crew, hcrew, hover⟩
  · have hrest := atRest_iff.mpr ⟨hstopped, horderly.isStopping h.act rfl⟩
    exact atRest_of_le hrest (Nat.le_of_lt hearlier) hstart'
  · have hlength : (c.before k).crews.length = (c.before i).crews.length :=
      length_crews_eq (Nat.le_of_lt hearlier) hstart'
    have hlast : (c.before i).crews.length - 1 < (c.before k).crews.length :=
      (List.getElem?_eq_some_iff.mp hcrew).1
    intro crew' hmem
    obtain ⟨n, hcrew'⟩ := List.mem_iff_getElem?.mp hmem
    have hlt : n < (c.before k).crews.length := (List.getElem?_eq_some_iff.mp hcrew').1
    rcases Nat.lt_or_eq_of_le hlt with hlt' | heq
    · exact horderly.isOver_of_not_last hcrew' hlt'
    · obtain rfl : n = (c.before i).crews.length - 1 := by omega
      obtain rfl : crew = crew' := Option.some.inj (hcrew.symm.trans hcrew')
      exact hover

end Course

end Admittance
