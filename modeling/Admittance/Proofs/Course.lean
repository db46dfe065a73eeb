import Admittance.Proofs.Deployment

/-!
# What an act comes to

Whatever happens to an authority and its tasks, a crew comes further in one of three ways: not at
all, by a stop that takes it, or by a turn of its own (`Crew.Next`).  The state of the authority is
changed by explicit calls, by sweepers that are awake and by hooks that hold the name of a
conference, and by nothing else (`Deployment.Deed`).  Invariants of a crew are proved by
`Course.Enlists.crew_induction`: they hold of the crew as a start spawns it, and each way of coming
further keeps them.
-/

namespace Admittance

variable {η : Type}

/-! ## Turns -/

namespace Hook

/-- A hook that subscribes changes nothing. -/
lemma begin_unchanged (h : Hook) (s : State η) : Unchanged s (h.begin s).2 := by
  unfold begin
  split
  · exact .log s _
  · exact .refl s

/-- To hear of something changes nothing yet. -/
lemma hear_unchanged (h : Hook) (eager : Bool) (c : Channel) (s : State η) :
    Unchanged s (h.hear eager c s).2.2 := by
  unfold hear
  split
  · split
    · split
      · exact .refl s
      · exact .log s _
    · exact .log s _
    · exact (Unchanged.log s _).trans (.log _ _)
    · exact .refl s
  · exact .refl s

/-- A hook that shuts down changes nothing. -/
lemma shutDown_unchanged (h : Hook) (s : State η) : Unchanged s (h.shutDown s).2 := by
  unfold shutDown
  split
  · exact .log s _
  · exact (Unchanged.log s _).trans (.log _ _)
  · exact .log s _
  · exact .refl s

/-- What a hook does to the registry is done by the end of the conference. -/
lemma purge_snd (h : Hook) (name : String) (s : State η) :
    (h.purge name s).2 = (Authority.purgeEnded s name).1 := by
  unfold purge
  split
  · rename_i heq
    rw [heq]
  · rename_i heq
    rw [heq]

/-- A hook that removes sessions stays where it was in its channel. -/
lemma position_purge (h : Hook) (name : String) (s : State η) :
    (h.purge name s).1.position = h.position := by
  unfold purge
  split <;> rfl

end Hook

/-- Records for the log change nothing. -/
lemma Unchanged.records (s : State η) (records : List Log.Record) :
    Unchanged s (s.note (records.map .record)) := by
  refine ⟨_, rfl, ?_⟩
  intro n hn
  obtain ⟨record, -, rfl⟩ := List.mem_map.mp hn
  rfl

/-- A stop itself changes nothing. -/
lemma Service.continueStop_unchanged (stop : Stop) (s : State η) :
    Unchanged s (continueStop stop s).2 := by
  cases stop with
  | sweeper w hook =>
    simp only [continueStop, awaitSweeper]
    split
    · exact .records s _
    · exact .refl s
  | hook hook =>
    cases hook with
    | none => exact .log s _
    | some hook => exact (hook.shutDown_unchanged s).trans (.log _ _)
  | finished => exact .refl s

namespace Duty

/-- To put the hook in that is there changes nothing. -/
lemma withHook_of_hook? {duty : Duty} {hook : Hook} (h : duty.hook? = some hook) :
    duty.withHook hook = duty := by
  cases duty with
  | serving tasks =>
    obtain ⟨w, hook'⟩ := tasks
    exact congrArg (fun hook => serving ⟨w, hook⟩) h.symm
  | leaving stop told =>
    cases stop with
    | sweeper w hook' => exact congrArg (fun hook => leaving (.sweeper w hook) told) h.symm
    | hook hook' => exact congrArg (fun hook => leaving (.hook hook) told) h.symm
    | finished => cases h

/-- Another hook leaves the sweeper as it is. -/
@[simp] lemma sweeper?_withHook (duty : Duty) (hook : Hook) :
    (duty.withHook hook).sweeper? = duty.sweeper? := by
  cases duty with
  | serving => rfl
  | leaving stop => cases stop <;> rfl

/-- Another sweeper leaves the hook as it is. -/
@[simp] lemma hook?_withSweeper (duty : Duty) (w : Sweeper) :
    (duty.withSweeper w).hook? = duty.hook? := by
  cases duty with
  | serving => rfl
  | leaving stop => cases stop <;> rfl

/-- A hook that is put in is there. -/
lemma hook?_withHook {duty : Duty} {hook : Hook} (h : duty.hook? = some hook) (hook' : Hook) :
    (duty.withHook hook').hook? = some hook' := by
  cases duty with
  | serving => rfl
  | leaving stop =>
    cases stop with
    | sweeper | hook => rfl
    | finished => cases h

/-- A sweeper that is put in is there. -/
lemma sweeper?_withSweeper {duty : Duty} {w : Sweeper} (h : duty.sweeper? = some w)
    (w' : Sweeper) : (duty.withSweeper w').sweeper? = some w' := by
  cases duty with
  | serving => rfl
  | leaving stop =>
    cases stop with
    | sweeper => rfl
    | hook | finished => cases h

/-- Who has returned is neither at work nor on the way out. -/
lemma eq_of_isOver {duty : Duty} (h : duty.isOver = true) :
    ∃ told, duty = leaving .finished told := by
  cases duty with
  | serving => cases h
  | leaving stop told =>
    cases stop with
    | sweeper | hook => cases h
    | finished => exact ⟨told, rfl⟩

end Duty

namespace Crew

variable (crew : Crew) (eager : Bool) (source : Option Channel) (s : State η)

/-- What a hook hears changes nothing until it has the registry. -/
lemma hear_unchanged : Unchanged s (crew.hear eager source s).2 := by
  unfold hear
  split
  · split
    · exact (Hook.begin_unchanged ..).trans (Hook.hear_unchanged ..)
    · exact .refl s
  · exact .refl s

/-- A stop that comes further changes nothing. -/
lemma proceed_unchanged : Unchanged s (crew.proceed s).2 := by
  unfold proceed
  split
  · exact .refl s
  · exact .refl s
  · exact Service.continueStop_unchanged _ s

/-- **A crew whose stop has returned never acts again.** -/
lemma take_of_isOver {crew : Crew} (h : crew.duty.isOver = true) (turn : Turn) :
    (crew.take eager source s turn).1.duty.isOver = true ∧
      (crew.take eager source s turn).1.hand = crew.hand ∧
      (crew.take eager source s turn).2 = s := by
  obtain ⟨told, hduty⟩ := Duty.eq_of_isOver h
  cases turn with
  | tick => simp [take, tick, hduty, Duty.sweeper?, Duty.isOver]
  | sweep => simp [take, sweep, hduty, Duty.sweeper?, Duty.isOver]
  | hear => simp [take, hear, hduty, Duty.hook?, Duty.isOver]
  | purge => simp [take, purge, hduty, Duty.hook?, Duty.isOver]
  | proceed => simp [take, proceed, hduty, Service.continueStop, Duty.isOver]

/-- How a crew comes further by an act, if there is one. -/
inductive Next (a : Authority η) (d : Deployment η) (n : Nat) (crew : Crew) :
    Option Act → Crew → Prop
  /-- The act is about something else. -/
  | same (act : Option Act) (other : ∀ turn, act ≠ some (.task n turn)) : Next a d n crew act crew
  /-- A stop takes it. -/
  | taken (tasks : Tasks) (serves : crew.duty = .serving tasks) :
      Next a d n crew (some .stop) (crew.taken tasks)
  | turned (turn : Turn) : Next a d n crew (some (.task n turn))
      (crew.take a.config.destroyOnConferenceEnd d.source d.world.state turn).1

end Crew

/-! ## Acts -/

namespace Deployment

variable (a : Authority η) (d : Deployment η)

/-- The tasks of the authority are those of the last crew. -/
lemma tasks?_eq_some {d : Deployment η} {tasks : Tasks} (h : d.tasks? = some tasks) :
    ∃ crew n, d.crews[n]? = some crew ∧ n + 1 = d.crews.length ∧ crew.duty = .serving tasks := by
  obtain ⟨crew, hlast, htasks⟩ := Option.bind_eq_some_iff.mp h
  rw [List.getLast?_eq_getElem?] at hlast
  obtain ⟨hlt, -⟩ := List.getElem?_eq_some_iff.mp hlast
  refine ⟨crew, _, hlast, by omega, ?_⟩
  unfold Duty.tasks? at htasks
  split at htasks
  · rename_i tasks' hduty
    exact Option.some.inj htasks ▸ hduty
  · cases htasks

/-- What an act leaves behind. -/
inductive Leaves (a : Authority η) (d : Deployment η) : Option Act → Deployment η → Prop
  /-- The act makes no sense or finds nothing to do. -/
  | nothing (act : Option Act) (silent : ∀ name elsewhere, act ≠ some (.announce name elsewhere))
      (nobody : ∀ n turn, act = some (.task n turn) → d.crews[n]? = none) : Leaves a d act d
  | requested (m : Move) (explicit : m.isBackground = false) :
      Leaves a d (some (.request m)) { d with world := d.world.step a m }
  | announced (name : String) (elsewhere : Bool) (isOpen : d.isClosed = false)
      (received : elsewhere = true ∨ 0 < d.receivers) :
      Leaves a d (some (.announce name elsewhere)) { d with source := d.source.map (·.send name) }
  /-- Nobody receives it, or there is no sender any more. -/
  | unheard (name : String) (elsewhere : Bool)
      (deaf : d.isClosed = true ∨ elsewhere = false ∧ d.receivers = 0) :
      Leaves a d (some (.announce name elsewhere)) d
  | closed : Leaves a d (some .close) { d with source := d.source.map Channel.close }
  | found (chance : Nat → Nat) (tasks : Tasks) (running : d.tasks? = some tasks) :
      Leaves a d (some (.start chance)) (d.withState (d.world.state.log .alreadyRunning))
  | started (chance : Nat → Nat) (stopped : d.tasks? = none) (s : State η)
      (unchanged : Unchanged d.world.state s) : Leaves a d (some (.start chance))
        { d.withState s with crews := d.crews ++ [.spawned a chance d.source] }
  | taken (tasks : Tasks) (n : Nat) (crew : Crew) (crew_eq : d.crews[n]? = some crew)
      (last : n + 1 = d.crews.length) (serves : crew.duty = .serving tasks) :
      Leaves a d (some .stop) { d with crews := d.crews.set n (crew.taken tasks) }
  | turned (n : Nat) (turn : Crew.Turn) (crew : Crew) (crew_eq : d.crews[n]? = some crew) :
      Leaves a d (some (.task n turn))
        { d.withState (crew.take a.config.destroyOnConferenceEnd d.source d.world.state turn).2 with
          crews := d.crews.set n
            (crew.take a.config.destroyOnConferenceEnd d.source d.world.state turn).1 }

/-- A start finds an authority that runs, or spawns a crew. -/
lemma leaves_start (chance : Nat → Nat) :
    Leaves a d (some (.start chance)) (d.step a (.start chance)) := by
  cases htasks : d.tasks? with
  | some tasks =>
    simp only [step, htasks, Service.start]
    exact .found chance tasks htasks
  | none =>
    simp only [step, htasks, Service.start]
    refine .started chance htasks _ ⟨_, rfl, ?_⟩
    intro n hn
    rcases List.mem_append.mp hn with hn | hn
    · obtain ⟨record, -, rfl⟩ := List.mem_map.mp hn
      rfl
    · rw [List.mem_singleton.mp hn]
      rfl

/-- A stop takes the crew that serves, or finds none. -/
lemma leaves_stop : Leaves a d (some .stop) (d.step a .stop) := by
  cases htasks : d.tasks? with
  | none =>
    simp only [step, htasks, Service.beginStop, Option.map_none]
    exact .nothing _ (by simp) (by simp)
  | some tasks =>
    obtain ⟨crew, n, hcrew, hlast, hserves⟩ := tasks?_eq_some htasks
    have hindex : d.crews.length - 1 = n := by omega
    have hset : d.crews.modify n (fun crew => ⟨.leaving (.sweeper tasks.sweeper tasks.hook) false,
        crew.hand⟩) = d.crews.set n (crew.taken tasks) := by
      rw [List.modify_eq_set_getElem?, hcrew]
      rfl
    simp only [step, htasks, Service.beginStop, Option.map_some, hindex, hset]
    exact .taken tasks n crew hcrew hlast hserves

/-- The end of a conference is put into the channel, or nobody hears of it. -/
lemma leaves_announce (name : String) (elsewhere : Bool) :
    Leaves a d (some (.announce name elsewhere)) (d.step a (.announce name elsewhere)) := by
  simp only [step]
  split
  · rename_i hdeaf
    refine .unheard name elsewhere ?_
    simpa using hdeaf
  · rename_i hheard
    rw [Bool.not_eq_true, Bool.or_eq_false_iff] at hheard
    refine .announced name elsewhere hheard.1 ?_
    cases elsewhere with
    | true => exact .inl rfl
    | false =>
      have hreceivers : d.receivers ≠ 0 := by simpa using hheard.2
      exact .inr (Nat.pos_of_ne_zero hreceivers)

/-- **What any act leaves behind.** -/
theorem leaves_after (act : Option Act) : Leaves a d act (d.after a act) := by
  cases act with
  | none => exact .nothing _ (by simp) (by simp)
  | some act =>
    cases act with
    | request m =>
      simp only [after, step]
      split
      · exact .nothing _ (by simp) (by simp)
      · rename_i hexplicit
        exact .requested m (Bool.eq_false_iff.mpr hexplicit)
    | announce name elsewhere => exact d.leaves_announce a name elsewhere
    | close => exact .closed
    | start chance => exact d.leaves_start a chance
    | stop => exact d.leaves_stop a
    | task n turn =>
      cases hcrew : d.crews[n]? with
      | none =>
        simp only [after, step, hcrew]
        refine .nothing _ (by simp) ?_
        rintro _ _ ⟨⟩
        exact hcrew
      | some crew =>
        simp only [after, step, hcrew]
        exact .turned n turn crew hcrew

/-! ### Crews -/

/-- Only a start that finds no tasks changes the number of crews; the crew that it spawns comes
last. -/
lemma crews_after (act : Option Act) :
    (d.after a act).crews.length = d.crews.length ∨
      ∃ chance, act = some (.start chance) ∧ d.tasks? = none ∧
        (d.after a act).crews = d.crews ++ [.spawned a chance d.source] := by
  have hleaves := d.leaves_after a act
  generalize d.after a act = d' at hleaves ⊢
  cases hleaves with
  | started chance stopped s unchanged => exact .inr ⟨chance, rfl, stopped, rfl⟩
  | taken => exact .inl List.length_set
  | turned => exact .inl List.length_set
  | nothing | requested | announced | unheard | closed | found => exact .inl rfl

/-- **What becomes of a crew** in one act. -/
theorem exists_next {d : Deployment η} {n : Nat} {crew : Crew} (h : d.crews[n]? = some crew)
    (act : Option Act) :
    ∃ crew', (d.after a act).crews[n]? = some crew' ∧ Crew.Next a d n crew act crew' := by
  have hlt : n < d.crews.length := (List.getElem?_eq_some_iff.mp h).1
  have hleaves := d.leaves_after a act
  generalize d.after a act = d' at hleaves ⊢
  cases hleaves with
  | nothing _ _ nobody =>
    refine ⟨crew, h, .same _ ?_⟩
    intro turn hact
    rw [nobody n turn hact] at h
    cases h
  | started => exact ⟨crew, (List.getElem?_append_left hlt).trans h, .same _ (by simp)⟩
  | taken tasks m last hlast _ hserves =>
    by_cases hmn : m = n
    · subst hmn
      obtain rfl : crew = last := Option.some.inj (h.symm.trans hlast)
      exact ⟨_, List.getElem?_set_self hlt, .taken tasks hserves⟩
    · exact ⟨crew, (List.getElem?_set_ne hmn).trans h, .same _ (by simp)⟩
  | turned m turn other hother =>
    by_cases hmn : m = n
    · subst hmn
      obtain rfl : crew = other := Option.some.inj (h.symm.trans hother)
      exact ⟨_, List.getElem?_set_self hlt, .turned turn⟩
    · refine ⟨crew, (List.getElem?_set_ne hmn).trans h, .same _ ?_⟩
      rintro _ ⟨⟩
      exact hmn rfl
  | requested | announced | unheard | closed | found => exact ⟨crew, h, .same _ (by simp)⟩

/-! ### The state of the authority -/

/-- What an act does to the state of the authority. -/
inductive Deed (a : Authority η) (d : Deployment η) : Option Act → State η → Prop
  /-- A call comes further, or the clock or the listeners change. -/
  | requested (m : Move) (explicit : m.isBackground = false) :
      Deed a d (some (.request m)) (d.world.step a m).state
  | swept (n : Nat) (crew : Crew) (w : Sweeper) (crew_eq : d.crews[n]? = some crew)
      (sweeper : crew.duty.sweeper? = some w) (awake : w.isAwake = true) {s : State η}
      (rest : Unchanged (Authority.afterOperation d.world.state
        (d.world.state.registry.sweep d.world.state.now w.lifetime)) s) :
      Deed a d (some (.task n .sweep)) s
  | purged (n : Nat) (crew : Crew) (hook : Hook) (name : String)
      (crew_eq : d.crews[n]? = some crew) (hook_eq : crew.duty.hook? = some hook)
      (hand : crew.hand = some name) {s : State η}
      (rest : Unchanged (Authority.afterOperation d.world.state
        (d.world.state.registry.purge name)) s) : Deed a d (some (.task n .purge)) s
  | idle (act : Option Act) {s : State η} (unchanged : Unchanged d.world.state s) : Deed a d act s

/-- What a turn of a crew does to the state of the authority. -/
lemma deed_task {n : Nat} {crew : Crew} (h : d.crews[n]? = some crew) (turn : Crew.Turn) :
    Deed a d (some (.task n turn))
      (crew.take a.config.destroyOnConferenceEnd d.source d.world.state turn).2 := by
  cases turn with
  | tick => exact .idle _ (.refl _)
  | sweep =>
    simp only [Crew.take, Crew.sweep]
    split
    · rename_i w hsweeper
      cases hawake : w.isAwake with
      | true =>
        exact .swept n crew w h hsweeper hawake (Sweeper.sweep_unchanged_of_isAwake hawake _)
      | false =>
        refine .idle _ ?_
        rw [Sweeper.sweep_of_not_isAwake hawake]
        exact .refl _
    · exact .idle _ (.refl _)
  | hear => exact .idle _ (crew.hear_unchanged ..)
  | purge =>
    simp only [Crew.take, Crew.purge]
    split
    · rename_i hook name hhook hhand
      rw [Hook.purge_snd]
      exact .purged n crew hook name h hhook hhand (Authority.purgeEnded_unchanged _ name)
    · exact .idle _ (.refl _)
  | proceed => exact .idle _ (crew.proceed_unchanged _)

/-- **What an act does to the state of the authority.** -/
theorem deed_after (act : Option Act) : Deed a d act (d.after a act).world.state := by
  have hleaves := d.leaves_after a act
  generalize d.after a act = d' at hleaves ⊢
  cases hleaves with
  | requested m explicit => exact .requested m explicit
  | found => exact .idle _ (.log _ _)
  | started _ _ _ unchanged => exact .idle _ unchanged
  | turned n turn crew hcrew => exact d.deed_task a hcrew turn
  | nothing | announced | unheard | closed | taken => exact .idle _ (.refl _)

/-- The clock never goes back. -/
lemma now_le_after (act : Option Act) : d.now ≤ (d.after a act).now := by
  have hdeed := d.deed_after a act
  rw [now, now]
  generalize (d.after a act).world.state = s at hdeed ⊢
  cases hdeed with
  | requested m _ => exact World.now_le_step a d.world m
  | swept _ _ _ _ _ _ rest => exact Int.le_of_eq rest.now.symm
  | purged _ _ _ _ _ _ _ rest => exact Int.le_of_eq rest.now.symm
  | idle _ unchanged => exact Int.le_of_eq unchanged.now.symm

end Deployment

/-! ## Courses -/

namespace Course

variable (c : Course η)

/-- The clock never goes back. -/
lemma now_le {i k : Nat} (hik : i ≤ k) : c.now i ≤ c.now k := by
  induction k, hik using Nat.le_induction with
  | base => exact Int.le_refl _
  | succ k _ ih => exact Int.le_trans ih ((c.before k).now_le_after c.authority _)

/-- No crew gets out of sight. -/
lemma length_crews_le {i k : Nat} (hik : i ≤ k) :
    (c.before i).crews.length ≤ (c.before k).crews.length := by
  induction k, hik using Nat.le_induction with
  | base => exact Nat.le_refl _
  | succ k _ ih =>
    refine Nat.le_trans ih ?_
    rw [before]
    rcases (c.before k).crews_after c.authority c.acts[k]? with heq | ⟨chance, -, -, heq⟩
    · exact Nat.le_of_eq heq.symm
    · rw [heq, List.length_append]
      exact Nat.le_add_right _ _

/-- What an act leaves behind is one of the things that `Deployment.Leaves` lists. -/
lemma leaves (k : Nat) :
    (c.before k).Leaves c.authority c.acts[k]? (c.before (k + 1)) :=
  (c.before k).leaves_after c.authority c.acts[k]?

/-- What an act does to the state is one of the things that `Deployment.Deed` lists. -/
lemma deed (k : Nat) :
    (c.before k).Deed c.authority c.acts[k]? (c.before (k + 1)).world.state :=
  (c.before k).deed_after c.authority c.acts[k]?

variable {c} {n k : Nat} {crew crew' : Crew}

/-- A turn of a crew's task does to the state what the crew does in it. -/
lemma before_succ_of_task {turn : Crew.Turn} (hact : c.acts[k]? = some (.task n turn))
    (hcrew : c.crew? n k = some crew) : (c.before (k + 1)).world.state =
      (crew.take c.authority.config.destroyOnConferenceEnd (c.before k).source
        (c.before k).world.state turn).2 := by
  have hcrew' : (c.before k).crews[n]? = some crew := hcrew
  simp only [before, hact, Deployment.after, Deployment.step, hcrew', Deployment.withState]

/-- A crew is still there after an act, and has come further in one of the three ways or not at
all. -/
lemma exists_next (h : c.crew? n k = some crew) :
    ∃ crew', c.crew? n (k + 1) = some crew' ∧
      Crew.Next c.authority (c.before k) n crew c.acts[k]? crew' :=
  Deployment.exists_next c.authority h c.acts[k]?

/-- A crew has either just been spawned or come further. -/
lemma crew?_succ (h : c.crew? n (k + 1) = some crew') :
    (∃ chance, c.Enlists n k chance ∧ crew' = .spawned c.authority chance (c.before k).source) ∨
      ∃ crew, c.crew? n k = some crew ∧
        Crew.Next c.authority (c.before k) n crew c.acts[k]? crew' := by
  cases hcrew : c.crew? n k with
  | some crew =>
    obtain ⟨crew'', h', hnext⟩ := exists_next hcrew
    obtain rfl : crew' = crew'' := Option.some.inj (h.symm.trans h')
    exact .inr ⟨crew, rfl, hnext⟩
  | none =>
    have hlength : (c.before k).crews.length ≤ n := List.getElem?_eq_none_iff.mp hcrew
    have hlt : n < (c.before (k + 1)).crews.length := (List.getElem?_eq_some_iff.mp h).1
    rcases (c.before k).crews_after c.authority c.acts[k]? with heq | ⟨chance, hact, hstopped, heq⟩
    · have heq' : (c.before (k + 1)).crews.length = (c.before k).crews.length := heq
      omega
    · have hcrews : (c.before (k + 1)).crews =
          (c.before k).crews ++ [.spawned c.authority chance (c.before k).source] := heq
      rw [hcrews, List.length_append, List.length_singleton] at hlt
      obtain rfl : n = (c.before k).crews.length := by omega
      rw [crew?, hcrews, List.getElem?_concat_length] at h
      exact .inl ⟨chance, ⟨hact, hstopped, rfl⟩, (Option.some.inj h).symm⟩

/-- Every crew was spawned by a start. -/
lemma exists_enlists (h : c.crew? n k = some crew) :
    ∃ j chance, j < k ∧ c.Enlists n j chance := by
  induction k generalizing crew with
  | zero => cases h
  | succ k ih =>
    rcases crew?_succ h with ⟨chance, henlists, -⟩ | ⟨crew, hcrew, -⟩
    · exact ⟨k, chance, Nat.lt_succ_self k, henlists⟩
    · obtain ⟨j, chance, hjk, henlists⟩ := ih hcrew
      exact ⟨j, chance, Nat.lt_succ_of_lt hjk, henlists⟩

namespace Enlists

variable {j : Nat} {chance : Nat → Nat}

/-- The crew that a start spawns is the last one. -/
lemma length_crews (h : c.Enlists n j chance) : (c.before (j + 1)).crews.length = n + 1 := by
  simp only [before, h.act, Deployment.after, Deployment.step, h.stopped, Service.start,
    List.length_append, List.length_singleton, h.number]

/-- A crew is not there before the start that spawns it. -/
lemma crew?_eq_none (h : c.Enlists n j chance) {i : Nat} (hij : i ≤ j) : c.crew? n i = none := by
  rw [crew?, List.getElem?_eq_none_iff, ← h.number]
  exact c.length_crews_le hij

/-- A crew is there ever after. -/
lemma exists_crew (h : c.Enlists n j chance) (hjk : j < k) : ∃ crew, c.crew? n k = some crew := by
  have hgrown := c.length_crews_le hjk
  rw [Nat.succ_eq_add_one, h.length_crews] at hgrown
  exact ⟨_, List.getElem?_eq_getElem hgrown⟩

/-- **An invariant of a crew** holds of it as it is spawned, and each way in which it may come
further keeps it. -/
theorem crew_induction (h : c.Enlists n j chance) {motive : Nat → Crew → Prop}
    (spawned : motive (j + 1) (.spawned c.authority chance (c.before j).source))
    (next : ∀ k crew crew', j < k → c.crew? n k = some crew → motive k crew →
      Crew.Next c.authority (c.before k) n crew c.acts[k]? crew' → motive (k + 1) crew')
    (hjk : j < k) (hcrew : c.crew? n k = some crew) : motive k crew := by
  induction k, hjk using Nat.le_induction generalizing crew with
  | base =>
    rcases crew?_succ hcrew with ⟨chance', henlists, rfl⟩ | ⟨crew', hcrew', -⟩
    · have hact : some (Act.start chance) = some (.start chance') := h.act.symm.trans henlists.act
      cases hact
      exact spawned
    · rw [h.crew?_eq_none (Nat.le_refl j)] at hcrew'
      cases hcrew'
  | succ k hjk ih =>
    rcases crew?_succ hcrew with ⟨chance', henlists, -⟩ | ⟨crew', hcrew', hnext⟩
    · -- The number is taken since act `j`.
      have hgrown := c.length_crews_le hjk
      rw [Nat.succ_eq_add_one, h.length_crews, henlists.number] at hgrown
      omega
    · exact next k crew' crew hjk hcrew' (ih hcrew') hnext

end Enlists

end Course

end Admittance
