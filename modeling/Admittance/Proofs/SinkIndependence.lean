import Admittance.Proofs.SinkPairing

/-!
# Without a sink

`Course.under` is a course in which events go to an outlet of its own at every act: the sink is
there, is gone, and is put in place again whenever one likes.  Two such courses, with the same acts
and the same orders in which sessions come up, go the same way (`Course.paired_under`).  In
particular a missing sink never changes anything: compared with a course whose sink takes all
events, the sinks of another one take the events of the acts at which they are there, and the log
names the sessions of all others (`Course.sinkIndependent`).

There is one call whose answer does tell whether there is a sink, for this is what it is asked for
(`Course.asked_answer_ne`).
-/

namespace Admittance

variable {η : Type}

/-! ## Calls in flight -/

/-- A call that waits for the registry once is the one that its section runs. -/
def Flight.Faithful (f : Flight) : Prop :=
  ∀ call, f.progress = some (.waiting (.whole call)) → f.call = call

/-- A call that asks for a text about the registry, and waits for the registry. -/
def Flight.asking : Flight := ⟨.registryText, some (.waiting (.whole .registryText))⟩

/-- Such a call with its answer. -/
def Flight.described (r : Registry) : Flight :=
  ⟨.registryText, some (.answered (.text (some r.text)))⟩

/-- A call has come as far with either outlet, and is answered the same unless it asks for a text
that tells of the sink.  Then the two texts are about a pair of registries that `texts` allows. -/
inductive Flight.Agrees (texts : Registry → Registry → Prop) :
    Option Flight → Option Flight → Prop
  | same (f : Option Flight) (faithful : ∀ g, f = some g → g.Faithful) : Agrees texts f f
  | described {r r' : Registry} (allowed : texts r r') :
      Agrees texts (some (.described r)) (some (.described r'))

/-- No section lets a call wait for the registry once. -/
lemma Authority.enterAndConsultIn_ne_whole (o : SearchOrder) (i : Nat) (a : Authority η)
    (s : State η) (pending : Section) (registryFree : Bool) (call : Call) :
    (a.enterAndConsultIn o i s pending registryFree).2 ≠ .waiting (.whole call) := by
  have hentered : (a.enterIn o i s pending).2 ≠ .waiting (.whole call) := by
    cases pending with
    | whole => exact fun h => by cases h
    | precheck q requester =>
      show (a.enterPrecheck s q requester).2 ≠ _
      rcases a.enterPrecheck_progress s q requester with
        ⟨e, -, h⟩ | ⟨presented, -, ⟨g, -, h⟩ | ⟨-, h⟩⟩
      · rw [h]
        exact fun h => by cases h
      · rw [h]
        exact fun h => by cases h
      · rw [h]
        exact fun h => by cases h
    | commit q requester g =>
      simp only [enterIn, enterCommitIn, enterCommitBy]
      split
      · exact fun h => by cases h
      · exact fun h => by cases h
  unfold enterAndConsultIn consulting
  split
  · exact fun h => by cases h
  · exact hentered

namespace Pairing

variable {p : Pairing}

/-! ## Moves -/

/-- The worlds are the same but for their sinks; a text for call `n` is about registries that
`texts n` allows. -/
structure Worlds (p : Pairing) (texts : Nat → Registry → Registry → Prop) (w w' : World η) :
    Prop where
  state : p.States w.state w'.state
  flight : ∀ n, Flight.Agrees (texts n) (w.flight n) (w'.flight n)

namespace Worlds

variable {texts texts' : Nat → Registry → Registry → Prop} {w w' : World η}

/-- More registries may be allowed. -/
lemma mono (h : p.Worlds texts w w') (hmore : ∀ n r r', texts n r r' → texts' n r r') :
    p.Worlds texts' w w' := by
  refine ⟨h.state, fun n => ?_⟩
  have hflight := h.flight n
  generalize w.flight n = f, w'.flight n = f' at hflight ⊢
  cases hflight with
  | same f faithful => exact .same _ faithful
  | described allowed => exact .described (hmore n _ _ allowed)

/-- A call that has reached the same is as far in both worlds. -/
lemma put (h : p.Worlds texts w w') (n : Nat) (call : Call) {reached reached' : State η × Progress}
    (hreached : p.Reached reached reached')
    (hfaithful : (⟨call, some reached.2⟩ : Flight).Faithful) :
    p.Worlds texts (w.put n call reached) (w'.put n call reached') := by
  refine ⟨hreached.state, fun i => ?_⟩
  rw [World.flight_put, World.flight_put, ← hreached.value]
  split
  · refine .same _ fun g hg => ?_
    rw [← Option.some.inj hg]
    exact hfaithful
  · exact h.flight i

/-- A call that arrives comes as far. -/
lemma arrive (h : p.Worlds texts w w') (a : Authority η) (n : Nat) (call : Call) :
    p.Worlds texts (w.step a (.arrive n call)) (w'.step a (.arrive n call)) := by
  have hflight := h.flight n
  simp only [World.step]
  generalize w.flight n = f, w'.flight n = f' at hflight
  cases hflight with
  | same f _ =>
    split
    · refine h.put n call (h.state.arrive a call) fun call' hwaiting => ?_
      have hprogress : (a.arrive w.state call).2 = .waiting (.whole call') :=
        Option.some.inj hwaiting
      rcases a.arrive_progress w.state call with
        ⟨q, requester, -, -, hp⟩ | ⟨-, hp⟩ | ⟨q, requester, -, -, hp⟩ | ⟨name, -, hp⟩
      · rw [hp] at hprogress
        cases hprogress
      · rw [hp] at hprogress
        cases hprogress
        rfl
      · rw [hp] at hprogress
        cases hprogress
      · rw [hp] at hprogress
        cases hprogress
    · exact h
  | described => exact h

/-- A call that gets the registry comes as far; if it asks for a text, then the text is about the
registry as it is now. -/
lemma enter (h : p.Worlds texts w w') (hr : p.Registries w.state.registry w'.state.registry)
    (o : SearchOrder) (i : Nat) (a : Authority η) (n : Nat) (registryFree : Bool)
    (hnow : w.flight n = some .asking → texts n w.state.registry w'.state.registry) :
    p.Worlds texts (w.stepIn o i a (.enter n registryFree))
      (w'.stepIn o i a (.enter n registryFree)) := by
  have hflight := h.flight n
  simp only [World.stepIn]
  generalize w.flight n = f, w'.flight n = f' at hflight hnow
  cases hflight with
  | same f faithful =>
    split
    · rename_i call pending
      by_cases htext : pending = .whole .registryText
      · -- The text tells whether there is a sink, so the two answers need not be the same.
        subst htext
        obtain rfl : call = .registryText := faithful _ rfl _ rfl
        refine ⟨h.state, fun j => ?_⟩
        rw [World.flight_put, World.flight_put]
        split
        · rename_i hj
          exact .described (hj ▸ hnow rfl)
        · exact h.flight j
      · refine h.put n call (h.state.enterAndConsultIn a hr o i htext registryFree) ?_
        intro call' hwaiting
        exact absurd (Option.some.inj hwaiting)
          (a.enterAndConsultIn_ne_whole o i w.state pending _ _)
    · exact h
  | described => exact h

/-- A join whose verifier answers comes as far. -/
lemma answer (h : p.Worlds texts w w') (a : Authority η) (n : Nat) (verdict : Verdict) :
    p.Worlds texts (w.step a (.answer n verdict)) (w'.step a (.answer n verdict)) := by
  have hflight := h.flight n
  simp only [World.step]
  generalize w.flight n = f, w'.flight n = f' at hflight
  cases hflight with
  | same f _ =>
    split
    · rename_i call context _
      refine h.put n call (h.state.conclude context verdict) fun call' hwaiting => ?_
      have hprogress : (Authority.conclude w.state context verdict).2 = .waiting (.whole call') :=
        Option.some.inj hwaiting
      rcases Authority.conclude_progress w.state context verdict with ⟨e, -, hp⟩ | ⟨g, -, hp⟩
      · rw [hp] at hprogress
        cases hprogress
      · rw [hp] at hprogress
        cases hprogress
    · exact h
  | described => exact h

/-- A call whose caller goes away is gone from both worlds. -/
lemma abandon (h : p.Worlds texts w w') (a : Authority η) (n : Nat) :
    p.Worlds texts (w.step a (.abandon n)) (w'.step a (.abandon n)) := by
  have hflight := h.flight n
  simp only [World.step]
  generalize w.flight n = f, w'.flight n = f' at hflight
  cases hflight with
  | same f _ =>
    split
    · exact h
    · exact h
    · refine ⟨h.state, fun i => ?_⟩
      simp only [Function.update_apply]
      split
      · exact .same _ fun g hg => by cases hg; exact fun _ hwaiting => by cases hwaiting
      · exact h.flight i
  | described => exact h

/-- **A move comes to the same with either outlet.** -/
theorem stepIn (h : p.Worlds texts w w') (hr : p.Registries w.state.registry w'.state.registry)
    (o : SearchOrder) (i : Nat) (a : Authority η) {m : Move} (hm : m.isBackground = false)
    (hnow : ∀ n registryFree, m = .enter n registryFree → w.flight n = some .asking →
      texts n w.state.registry w'.state.registry) :
    p.Worlds texts (w.stepIn o i a m) (w'.stepIn o i a m) := by
  obtain ⟨now, sessions, drawn, listeners, host, uttered⟩ := h.state
  cases m with
  | arrive n call => exact h.arrive a n call
  | enter n registryFree => exact h.enter hr o i a n registryFree (hnow n registryFree rfl)
  | answer n verdict => exact h.answer a n verdict
  | abandon n => exact h.abandon a n
  | wait nanos =>
    exact ⟨⟨congrArg (· + (nanos : Int)) now, sessions, drawn, listeners, host, uttered⟩, h.flight⟩
  | relist change =>
    refine ⟨⟨now, sessions, drawn, ?_, host, uttered⟩, h.flight⟩
    simp only [World.stepIn, World.step, listeners]
  | sweep | receive => cases hm

end Worlds

end Pairing

/-! ## Acts -/

namespace Deployment

variable (d : Deployment η) (o : SearchOrder) (i : Nat) (x : Outlet)

/-- The deployment after an act whose second search, if it has one, is in the order of moment
`i`. -/
def stepIn (a : Authority η) : Act → Deployment η
  | .request m => if m.isBackground then d else { d with world := d.world.stepIn o i a m }
  | act => d.step a act

/-- The deployment after such an act, if there is one. -/
def afterIn (a : Authority η) : Option Act → Deployment η
  | some act => d.stepIn o i a act
  | none => d

/-- The deployment in which the registry is searched as at moment `i` and events go to `x`. -/
def outfitted : Deployment η :=
  d.withState { d.world.state with
    registry := { d.registry.arranged o i with sink := x.sink? } }

variable {d i x} in
/-- Nothing changes where events go to the outlet anyway. -/
lemma outfitted_self (i : Nat) (h : d.registry.sink = x.sink?) :
    d.outfitted .byCreation i x = d := by
  have hregistry : { d.registry.arranged .byCreation i with sink := x.sink? } = d.registry := by
    rw [← h]
    rfl
  rw [outfitted, hregistry]
  rfl

/-- In the order of creation an act does what it does anyway. -/
lemma afterIn_byCreation (a : Authority η) (act : Option Act) :
    d.afterIn .byCreation i a act = d.after a act := by
  cases act with
  | none => rfl
  | some act =>
    cases act with
    | request m => simp only [afterIn, after, stepIn, step, World.stepIn_byCreation]
    | announce | close | start | stop | task => rfl

/-- An outlet is put in place as a call would do it. -/
lemma outfitted_eq (a : Authority η) : d.outfitted o i x =
    d.withState (a.runWhole (d.world.arranged o i).state (.setSink x.sink?)).1 := rfl

end Deployment

namespace Pairing

variable {p : Pairing}

/-- Two outlets from now on. -/
def fresh (x y : Outlet) (d d' : Deployment η) : Pairing :=
  ⟨x, y, d.world.state.trace, d'.world.state.trace⟩

/-- The deployments are the same but for their sinks; a text for call `n` is about registries that
`texts n` allows. -/
structure Deployments (p : Pairing) (texts : Nat → Registry → Registry → Prop)
    (d d' : Deployment η) : Prop where
  world : p.Worlds texts d.world d'.world
  source : d.source = d'.source
  crews : d.crews = d'.crews

namespace Deployments

variable {texts texts' : Nat → Registry → Registry → Prop} {d d' : Deployment η}

/-- More registries may be allowed. -/
lemma mono (h : p.Deployments texts d d') (hmore : ∀ n r r', texts n r r' → texts' n r r') :
    p.Deployments texts' d d' :=
  ⟨h.world.mono hmore, h.source, h.crews⟩

/-- Other states that are the same but for their sinks. -/
lemma withState (h : p.Deployments texts d d') {s s' : State η} (hs : p.States s s') :
    p.Deployments texts (d.withState s) (d'.withState s') :=
  ⟨⟨hs, h.world.flight⟩, h.source, h.crews⟩

/-- The tasks in the slot are the same. -/
lemma tasks?_eq (h : p.Deployments texts d d') : d.tasks? = d'.tasks? := by
  unfold Deployment.tasks?
  rw [h.crews]

/-- **An act comes to the same with either outlet.** -/
theorem stepIn (h : p.Deployments texts d d') (hr : p.Registries d.registry d'.registry)
    (o : SearchOrder) (i : Nat) (a : Authority η) (act : Act)
    (hnow : ∀ n registryFree, act = .request (.enter n registryFree) →
      d.world.flight n = some .asking → texts n d.registry d'.registry) :
    p.Deployments texts (d.stepIn o i a act) (d'.stepIn o i a act) := by
  have hstate := h.world.state
  cases act with
  | request m =>
    simp only [Deployment.stepIn]
    split
    · exact h
    · rename_i hm
      have hworld := h.world.stepIn hr o i a (Bool.not_eq_true _ ▸ hm) fun n registryFree heq =>
        hnow n registryFree (congrArg Act.request heq)
      exact ⟨hworld, h.source, h.crews⟩
  | announce name elsewhere =>
    have hclosed : d.isClosed = d'.isClosed := by
      unfold Deployment.isClosed
      rw [h.source]
    have hreceivers : d.receivers = d'.receivers := by
      unfold Deployment.receivers Deployment.hooks
      rw [h.crews]
    simp only [Deployment.stepIn, Deployment.step, hclosed, hreceivers]
    split
    · exact h
    · exact ⟨h.world, congrArg (Option.map (·.send name)) h.source, h.crews⟩
  | close => exact ⟨h.world, congrArg (Option.map Channel.close) h.source, h.crews⟩
  | start chance =>
    have hstart := hstate.start a chance d.source d.tasks?
    have hstarted := h.withState hstart.1
    simp only [Deployment.stepIn, Deployment.step, ← h.source, ← h.tasks?_eq, ← hstart.2]
    split
    · exact ⟨hstarted.world, hstarted.source, congrArg (· ++ _) h.crews⟩
    · exact hstarted
  | stop =>
    simp only [Deployment.stepIn, Deployment.step, ← h.tasks?_eq]
    split
    · exact h
    · exact ⟨h.world, h.source, by rw [h.crews]⟩
  | task n turn =>
    simp only [Deployment.stepIn, Deployment.step, ← h.crews]
    split
    · exact h
    · rename_i crew _
      have htake := hstate.take hr a.config.destroyOnConferenceEnd d.source crew turn
      rw [← h.source, ← htake.2]
      exact ⟨⟨htake.1, h.world.flight⟩, h.source, rfl⟩

/-- So does nothing at all. -/
lemma afterIn (h : p.Deployments texts d d') (hr : p.Registries d.registry d'.registry)
    (o : SearchOrder) (i : Nat) (a : Authority η) (act : Option Act)
    (hnow : ∀ n registryFree, act = some (.request (.enter n registryFree)) →
      d.world.flight n = some .asking → texts n d.registry d'.registry) :
    p.Deployments texts (d.afterIn o i a act) (d'.afterIn o i a act) := by
  cases act with
  | none => exact h
  | some act =>
    exact h.stepIn hr o i a act fun n registryFree heq => hnow n registryFree (congrArg some heq)

/-- Outlets are put in place, and what is seen from then on is compared. -/
lemma outfitted (h : p.Deployments texts d d') (o : SearchOrder) (i : Nat) (x y : Outlet) :
    (fresh x y (d.outfitted o i x) (d'.outfitted o i y)).Deployments texts (d.outfitted o i x)
      (d'.outfitted o i y) := by
  have hstate := h.world.state
  refine ⟨⟨⟨hstate.now, congrArg (o.arrange i) hstate.sessions, hstate.drawn, hstate.listeners,
    hstate.host, [], ?_, ?_⟩, h.world.flight⟩, h.source, h.crews⟩
  · exact (List.append_nil _).symm
  · exact (List.append_nil _).symm

/-- The registries report to the outlets that are put in place. -/
lemma registries_outfitted (h : p.Deployments texts d d') (o : SearchOrder) (i : Nat)
    (x y : Outlet) :
    (fresh x y (d.outfitted o i x) (d'.outfitted o i y)).Registries (d.outfitted o i x).registry
      (d'.outfitted o i y).registry :=
  .of_sessions_eq (congrArg (o.arrange i) h.world.state.sessions) rfl rfl

end Deployments

end Pairing

/-! ## Courses -/

namespace Course

/-- The deployment that act `k` finds if events go to `outlet k` at act `k`, and every search of the
registry is in an order of its own. -/
def under (c : Course η) (o : SearchOrder) (outlet : Nat → Outlet) : Nat → Deployment η
  | 0 => (Deployment.idle c.start c.source).outfitted o 0 (outlet 0)
  | k + 1 => ((c.under o outlet k).afterIn o (2 * k + 1) c.authority c.acts[k]?).outfitted o
      (2 * (k + 1)) (outlet (k + 1))

variable (c : Course η) (o : SearchOrder) (outlet outlet' : Nat → Outlet)

/-- The state that act `k` finds then. -/
def stateUnder (k : Nat) : State η := (c.under o outlet k).world.state

variable {outlet} in
/-- A course whose sinks are those that it has anyway, and in which sessions come up in the order of
their creation, is the course itself. -/
theorem under_byCreation (h : ∀ k, (c.registry k).sink = (outlet k).sink?) (k : Nat) :
    c.under .byCreation outlet k = c.before k := by
  induction k with
  | zero => exact Deployment.outfitted_self 0 (h 0)
  | succ k ih =>
    rw [under, ih, Deployment.afterIn_byCreation]
    exact Deployment.outfitted_self (2 * (k + 1)) (h (k + 1))

/-- Events go to the outlet of the act. -/
lemma sink_under (k : Nat) : (c.stateUnder o outlet k).registry.sink = (outlet k).sink? := by
  cases k <;> rfl

/-- Act `j` lets call `n` have the registry, which asks for a text about it. -/
def AsksAt (j n : Nat) : Prop :=
  (∃ registryFree, c.acts[j]? = some (.request (.enter n registryFree))) ∧
    (c.under o outlet j).world.flight n = some .asking

/-- The registries that call `n` has been told about before act `k`, in two courses: those that an
act found which let it have the registry. -/
def texts (k n : Nat) (r r' : Registry) : Prop :=
  ∃ j < k, c.AsksAt o outlet j n ∧ r = (c.stateUnder o outlet j).registry ∧
    r' = (c.stateUnder o outlet' j).registry

/-- The outlets of one act in two courses. -/
def pairing (k : Nat) : Pairing :=
  .fresh (outlet k) (outlet' k) (c.under o outlet k) (c.under o outlet' k)

/-- A text that act `k` gives is about the registry that it finds. -/
lemma texts_succ {k n : Nat} {registryFree : Bool}
    (hact : c.acts[k]? = some (.request (.enter n registryFree)))
    (hasking : (c.under o outlet k).world.flight n = some .asking) :
    c.texts o outlet outlet' (k + 1) n (c.under o outlet k).registry
      (c.under o outlet' k).registry :=
  ⟨k, Nat.lt_succ_self k, ⟨⟨registryFree, hact⟩, hasking⟩, rfl, rfl⟩

/-- **Two courses that differ in their sinks go the same way.** -/
theorem paired_under (k : Nat) :
    (c.pairing o outlet outlet' k).Deployments (c.texts o outlet outlet' k) (c.under o outlet k)
        (c.under o outlet' k) ∧
      (c.pairing o outlet outlet' k).Registries (c.under o outlet k).registry
        (c.under o outlet' k).registry := by
  induction k with
  | zero =>
    let p : Pairing :=
      .fresh (outlet 0) (outlet' 0) (.idle c.start c.source) (.idle c.start c.source)
    have hidle : p.Deployments (c.texts o outlet outlet' 0) (.idle c.start c.source)
        (.idle c.start c.source) := by
      refine ⟨⟨⟨rfl, rfl, rfl, rfl, rfl, [], ?_, ?_⟩, fun n => ?_⟩, rfl, rfl⟩
      · exact (List.append_nil _).symm
      · exact (List.append_nil _).symm
      · exact .same none fun g hg => by cases hg
    exact ⟨hidle.outfitted o 0 _ _, hidle.registries_outfitted o 0 _ _⟩
  | succ k ih =>
    have hlater : ∀ n r r', c.texts o outlet outlet' k n r r' →
        c.texts o outlet outlet' (k + 1) n r r' :=
      fun n r r' ⟨j, hj, htext⟩ => ⟨j, Nat.lt_succ_of_lt hj, htext⟩
    have hmore := ih.1.mono hlater
    have hafter := hmore.afterIn ih.2 o (2 * k + 1) c.authority c.acts[k]?
      fun n registryFree hact hasking => c.texts_succ o outlet outlet' hact hasking
    exact ⟨hafter.outfitted o _ _ _, hafter.registries_outfitted o _ _ _⟩

/-- At every act the same is uttered with either outlet. -/
lemma exists_uttered (k : Nat) : ∃ uttered,
    (c.stateUnder o outlet (k + 1)).trace =
        (c.stateUnder o outlet k).trace ++ (outlet k).shows uttered ∧
      (c.stateUnder o outlet' (k + 1)).trace =
        (c.stateUnder o outlet' k).trace ++ (outlet' k).shows uttered := by
  obtain ⟨hunder, hregistries⟩ := c.paired_under o outlet outlet' k
  have hany : ∀ n r r', c.texts o outlet outlet' k n r r' → True := fun _ _ _ _ => trivial
  have hafter := (hunder.mono hany).afterIn hregistries o (2 * k + 1) c.authority c.acts[k]?
    fun _ _ _ _ => trivial
  exact hafter.world.state.uttered

/-! ## A missing sink -/

variable (name : String)

/-- The state that act `k` finds if a sink of this name takes every event. -/
def stateHeard (k : Nat) : State η := c.stateUnder o (fun _ => .recording name) k

/-- The events that this sink takes at act `k`. -/
def told (k : Nat) : List (Instant × Event) :=
  ((c.stateHeard o name (k + 1)).events.drop (c.stateHeard o name k).events.length).map
    fun e => (e.1, e.2.2)

/-- What this sink takes at an act is reported to any outlet. -/
lemma exists_uttered_told (k : Nat) : ∃ uttered, toldIn uttered = c.told o name k ∧
    (c.stateHeard o name (k + 1)).trace =
        (c.stateHeard o name k).trace ++ (Outlet.recording name).shows uttered ∧
      (c.stateUnder o outlet (k + 1)).trace =
        (c.stateUnder o outlet k).trace ++ (outlet k).shows uttered := by
  obtain ⟨uttered, htrace, htrace'⟩ := c.exists_uttered o (fun _ => .recording name) outlet k
  refine ⟨uttered, ?_, htrace, htrace'⟩
  have hevents : (c.stateHeard o name (k + 1)).events =
      (c.stateHeard o name k).events ++ (Outlet.recording name).receives (toldIn uttered) := by
    rw [← ((Outlet.recording name).reports_shows uttered).events]
    exact (congrArg eventsIn htrace).trans (eventsIn_append ..)
  rw [told, hevents, List.drop_left]
  show toldIn uttered =
    ((toldIn uttered).map fun e => (e.1, name, e.2)).map fun e => (e.1, e.2.2)
  rw [List.map_map]
  exact (List.map_id _).symm

/-- Sinks take the events of the acts at which they are there. -/
lemma events_under (k : Nat) : (c.stateUnder o outlet k).events =
    c.start.events ++ (List.range k).flatMap fun j => (outlet j).receives (c.told o name j) := by
  induction k with
  | zero => exact (List.append_nil _).symm
  | succ k ih =>
    obtain ⟨uttered, htold, -, htrace⟩ := c.exists_uttered_told o outlet name k
    have hevents : (c.stateUnder o outlet (k + 1)).events =
        (c.stateUnder o outlet k).events ++ (outlet k).receives (c.told o name k) := by
      rw [← htold, ← ((outlet k).reports_shows uttered).events]
      exact (congrArg eventsIn htrace).trans (eventsIn_append ..)
    rw [hevents, ih, List.range_succ, List.flatMap_append, List.append_assoc,
      List.flatMap_singleton]

/-- The log names the sessions of the events of all other acts. -/
lemma untoldIn_under (k : Nat) : untoldIn (c.stateUnder o outlet k).trace =
    untoldIn c.start.trace ++
      (List.range k).flatMap fun j => (outlet j).misses (c.told o name j) := by
  induction k with
  | zero => exact (List.append_nil _).symm
  | succ k ih =>
    obtain ⟨uttered, htold, -, htrace⟩ := c.exists_uttered_told o outlet name k
    rw [htrace, untoldIn_append, ih, ((outlet k).reports_shows uttered).untold, htold,
      List.range_succ, List.flatMap_append, List.append_assoc, List.flatMap_singleton]

/-- All else that is seen is the same. -/
lemma quietIn_under (k : Nat) :
    quietIn (c.stateUnder o outlet k).trace = quietIn (c.stateHeard o name k).trace := by
  induction k with
  | zero => rfl
  | succ k ih =>
    obtain ⟨uttered, -, htrace, htrace'⟩ := c.exists_uttered_told o outlet name k
    rw [htrace, htrace', quietIn_append, quietIn_append, ih,
      (outlet k).quietIn_shows (.recording name)]

/-- What a course has in common with one whose sink takes every event, as act `k` finds them. -/
structure SinkIndependent (k : Nat) : Prop where
  now : (c.stateUnder o outlet k).now = (c.stateHeard o name k).now
  /-- The same sessions are live. -/
  sessions : (c.stateUnder o outlet k).registry.sessions = (c.stateHeard o name k).registry.sessions
  drawn : (c.stateUnder o outlet k).drawn = (c.stateHeard o name k).drawn
  listeners : (c.stateUnder o outlet k).listeners = (c.stateHeard o name k).listeners
  host : (c.stateUnder o outlet k).host = (c.stateHeard o name k).host
  source : (c.under o outlet k).source = (c.under o (fun _ => .recording name) k).source
  /-- The sweepers, the hooks and the stops have come as far; the authority runs or does not. -/
  crews : (c.under o outlet k).crews = (c.under o (fun _ => .recording name) k).crews
  /-- At every act events go to the outlet of the act here, and to the one sink there. -/
  sink : ∀ j ≤ k, (c.stateUnder o outlet j).registry.sink = (outlet j).sink? ∧
    (c.stateHeard o name j).registry.sink = (Outlet.recording name).sink?
  /-- Every call has come as far, with the same answer, except that a text about the registry tells
  of the registry that its act found, and so whether there was a sink at this act. -/
  flight : ∀ n, (c.under o outlet k).world.flight n =
      (c.under o (fun _ => .recording name) k).world.flight n ∨
    ∃ j < k, c.AsksAt o (fun _ => .recording name) j n ∧
      (c.under o (fun _ => .recording name) k).world.flight n =
        some (.described (c.stateHeard o name j).registry) ∧
      (c.under o outlet k).world.flight n = some (.described (c.stateUnder o outlet j).registry)
  /-- Listeners are told the same, the verifier is asked the same, and the log is the same, except
  for what it says of events. -/
  quiet : quietIn (c.stateUnder o outlet k).trace = quietIn (c.stateHeard o name k).trace
  /-- The one sink takes all events. -/
  recorded : (c.stateHeard o name k).events = c.start.events ++
    (List.range k).flatMap fun j => (c.told o name j).map fun e => (e.1, name, e.2)
  /-- The others take those of the acts at which they are there. -/
  received : (c.stateUnder o outlet k).events =
    c.start.events ++ (List.range k).flatMap fun j => (outlet j).receives (c.told o name j)
  /-- The log names the sessions of all others. -/
  missed : untoldIn (c.stateUnder o outlet k).trace =
    untoldIn c.start.trace ++ (List.range k).flatMap fun j => (outlet j).misses (c.told o name j)
  /-- Where it does so, it has an error that says why and shows the session. -/
  worded : ∀ entry ∈ (c.stateUnder o outlet k).trace, ∀ t, entry.2.untold? = some t →
    ∃ record, entry.2 = .record record ∧ record.level = .error ∧
      record.message = "unable to emit session event: no event sink configured" ∧
      record.fields = [("session_id", t.text)]

/-- **A missing sink changes nothing**, whenever it is missing. -/
theorem sinkIndependent (k : Nat) : c.SinkIndependent o outlet name k := by
  obtain ⟨hunder, -⟩ := c.paired_under o (fun _ => .recording name) outlet k
  have hstate := hunder.world.state
  constructor
  case now => exact hstate.now.symm
  case sessions => exact hstate.sessions.symm
  case drawn => exact hstate.drawn.symm
  case listeners => exact hstate.listeners.symm
  case host => exact hstate.host.symm
  case source => exact hunder.source.symm
  case crews => exact hunder.crews.symm
  case sink => exact fun j _ => ⟨c.sink_under o outlet j, c.sink_under o _ j⟩
  case quiet => exact c.quietIn_under o outlet name k
  case recorded => exact c.events_under o (fun _ => .recording name) name k
  case received => exact c.events_under o outlet name k
  case missed => exact c.untoldIn_under o outlet name k
  case worded => exact fun _ _ _ huntold => Notice.exists_record_of_untold? huntold
  case flight =>
    intro n
    have hflight := hunder.world.flight n
    generalize (c.under o (fun _ => .recording name) k).world.flight n = f,
      (c.under o outlet k).world.flight n = f' at hflight ⊢
    cases hflight with
    | same => exact .inl rfl
    | described allowed =>
      obtain ⟨j, hj, hasks, rfl, rfl⟩ := allowed
      exact .inr ⟨j, hj, hasks, rfl, rfl⟩

/-- A session is opened, given up and opened again. -/
def interrupted : Course Unit where
  authority := .sample .reverify
  start := .initial 0 none ()
  source := none
  acts := [.request (.arrive 0 (.create "desk" "ann" "room" .empty)), .request (.enter 0 true),
    .request (.arrive 1 (.destroy (.ofNumber 0))), .request (.enter 1 true),
    .request (.arrive 2 (.create "desk" "ann" "room" .empty)), .request (.enter 2 true)]

/-- The sink is gone when the session is given up. -/
example : ((interrupted.stateUnder .byCreation
      (fun k => if k = 3 then .missing else .recording "log") 6).events.map (·.2.2.token),
    untoldIn (interrupted.stateUnder .byCreation
      (fun k => if k = 3 then .missing else .recording "log") 6).trace) =
    ([.ofNumber 0, .ofNumber 1], [.ofNumber 0]) := by
  decide

/-- A text about the registry is asked for. -/
def asked : Course Unit where
  authority := .sample .reverify
  start := .initial 0 none ()
  source := none
  acts := [.request (.arrive 0 .registryText), .request (.enter 0 true)]

/-- **A text about the registry tells whether there is a sink.** -/
theorem asked_answer_ne :
    (asked.under .byCreation (fun _ => .recording "log") 2).world.answer? 0 =
        some (.text (some "SessionRegistry \x7b sessions: 0, has_sink: true \x7d")) ∧
      (asked.under .byCreation (fun _ => .missing) 2).world.answer? 0 =
        some (.text (some "SessionRegistry \x7b sessions: 0, has_sink: false \x7d")) ∧
      (asked.under .byCreation (fun _ => .recording "log") 2).world.answer? 0 ≠
        (asked.under .byCreation (fun _ => .missing) 2).world.answer? 0 := by
  have hheard : (asked.under .byCreation (fun _ => .recording "log") 2).world.answer? 0 =
      some (.text (some "SessionRegistry \x7b sessions: 0, has_sink: true \x7d")) := by rfl
  have hunheard : (asked.under .byCreation (fun _ => .missing) 2).world.answer? 0 =
      some (.text (some "SessionRegistry \x7b sessions: 0, has_sink: false \x7d")) := by rfl
  refine ⟨hheard, hunheard, ?_⟩
  rw [hheard, hunheard]
  intro h
  simp at h

end Course

end Admittance
