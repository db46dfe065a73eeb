import Admittance.Proofs.Past

/-!
# What a move comes to

Of all that can happen, few things matter.  Whatever comes of a call before it gets the registry and
after its pre-check leaves the state `Unchanged`, and so does a move that makes no sense.  A sweeper
that is not awake does nothing, and so does a hook that hears nothing or is to keep the sessions;
else each of them removes sessions from the registry, and the rest is records for the log.
`World.turn` says so of every move: whoever wants to know what moves do has to look at the sections
of calls, at removals, and at nothing else.
-/

namespace Admittance

variable {η : Type}

/-! ## What changes nothing -/

/-- Nothing has changed, and nothing has happened that is shown: all that may have been noted are
records for the log and questions to a verifier. -/
def Unchanged (s s' : State η) : Prop :=
  ∃ notices : List Notice, s' = s.note notices ∧ ∀ n ∈ notices, n.isShown = false

namespace Unchanged

/-- Where nothing happens, the state is unchanged. -/
lemma refl (s : State η) : Unchanged s s := ⟨[], by simp [State.note], by simp⟩

/-- A record of the log leaves the state unchanged. -/
lemma log (s : State η) (record : Log.Record) : Unchanged s (s.log record) :=
  ⟨[.record record], rfl, by simp [Notice.isShown]⟩

/-- A question to a verifier leaves the state unchanged. -/
lemma consult (s : State η) (context : VerifyContext) (registryFree : Bool) :
    Unchanged s (Authority.consult s context registryFree) :=
  ⟨[.consulted context registryFree], rfl, by simp [Notice.isShown]⟩

/-- What is unchanged twice is unchanged. -/
lemma trans {s s' s'' : State η} (h : Unchanged s s') (h' : Unchanged s' s'') :
    Unchanged s s'' := by
  obtain ⟨notices, rfl, hnotices⟩ := h
  obtain ⟨notices', rfl, hnotices'⟩ := h'
  refine ⟨notices ++ notices', ?_, ?_⟩
  · simp only [State.note, List.map_append, List.append_assoc]
  · intro n hn
    exact (List.mem_append.mp hn).elim (hnotices n) (hnotices' n)

/-- An unchanged state has the same registry. -/
lemma registry {s s' : State η} (h : Unchanged s s') : s'.registry = s.registry := by
  obtain ⟨notices, rfl, -⟩ := h
  rfl

end Unchanged

namespace Authority

variable (a : Authority η) (s : State η)

/-- The arrival of a call leaves the state unchanged. -/
lemma arrive_unchanged (call : Call) : Unchanged s (a.arrive s call).1 := by
  unfold arrive
  split
  · split
    · exact .log s _
    · exact .refl s
  · split
    · exact .refl s
    · exact .log s _
  · exact .refl s

/-- A pre-check leaves the state unchanged. -/
lemma enterPrecheck_unchanged (q : JoinRequest) (requester : PeerAddress) :
    Unchanged s (a.enterPrecheck s q requester).1 := by
  unfold enterPrecheck
  split
  · exact .log s _
  · split <;> exact .refl s

/-- The verifier's answer leaves the state unchanged. -/
lemma conclude_unchanged (context : VerifyContext) (verdict : Verdict) :
    Unchanged s (conclude s context verdict).1 := by
  unfold conclude
  split
  · exact .log s _
  · exact .refl s

/-- A question to the verifier is all that comes on top of a section. -/
lemma enterAndConsult_unchanged (pending : Section) (registryFree : Bool) :
    Unchanged (a.enter s pending).1 (a.enterAndConsult s pending registryFree).1 := by
  unfold enterAndConsult consulting
  split
  · rename_i s' context heq
    rw [heq]
    exact .consult s' context registryFree
  · exact .refl _

/-- A removal is all that comes of the end of a conference. -/
lemma purgeEnded_unchanged (name : String) :
    Unchanged (afterOperation s (s.registry.purge name)) (purgeEnded s name).1 := by
  unfold purgeEnded
  dsimp only
  split
  · exact .log _ _
  · exact .refl _

end Authority

/-! ### Background tasks -/

/-- The sweeper has taken a tick, and removes what has expired as soon as it gets the registry. -/
def Sweeper.isAwake (w : Sweeper) : Bool :=
  match w.phase with
  | .awake _ => true
  | _ => false

/-- A sweep is all that comes of a sweeper that is awake. -/
lemma Sweeper.sweep_unchanged_of_isAwake {w : Sweeper} (h : w.isAwake = true) (s : State η) :
    Unchanged (Authority.afterOperation s (s.registry.sweep s.now w.lifetime))
      (w.sweep s).2 := by
  cases hphase : w.phase with
  | awake next =>
    simp only [sweep, hphase]
    split
    · split
      · exact .refl _
      · exact .log _ _
    · exact .refl _
  | spawned | asleep | stopped | panicked => simp [isAwake, hphase] at h

/-- Nothing comes of a sweeper that is not awake. -/
lemma Sweeper.sweep_of_not_isAwake {w : Sweeper} (h : w.isAwake = false) (s : State η) :
    (w.sweep s).2 = s := by
  cases hphase : w.phase with
  | awake next => simp [isAwake, hphase] at h
  | spawned | asleep | stopped | panicked => simp only [sweep, hphase]

/-- The conference whose sessions a hook removes when it has its turn, if it removes any. -/
def Hook.ended? (h : Hook) (eager : Bool) (c : Channel) : Option String :=
  match h.phase, c.receive h.position with
  | .listening, (.message name, _) => if eager then some name else none
  | _, _ => none

/-- A removal is all that comes of a hook that hears of the end of a conference and acts on it. -/
lemma Hook.receive_unchanged_of_ended {h : Hook} {eager : Bool} {c : Channel} {name : String}
    (hended : h.ended? eager c = some name) (s : State η) :
    Unchanged (Authority.afterOperation s (s.registry.purge name)) (h.receive eager c s).2 := by
  unfold ended? at hended
  split at hended
  · rename_i name' position hphase hreceived
    split at hended
    · rename_i heager
      obtain rfl : name' = name := Option.some.inj hended
      have hpurged := Authority.purgeEnded_unchanged s name'
      simp only [receive, hphase, hreceived, apply, heager, if_true]
      cases happlied : Authority.purgeEnded s name' with
      | mk s' survives =>
        rw [happlied] at hpurged
        cases survives <;> exact hpurged
    · exact absurd hended (by simp)
  · exact absurd hended (by simp)

/-- Nothing but records comes of any other hook. -/
lemma Hook.receive_unchanged_of_not_ended {h : Hook} {eager : Bool} {c : Channel}
    (hended : h.ended? eager c = none) (s : State η) :
    Unchanged s (h.receive eager c s).2 := by
  unfold receive
  split
  · rename_i hphase
    split
    · rename_i name position hreceived
      have hlazy : eager = false := by
        simpa [ended?, hphase, hreceived] using hended
      simp only [apply, hlazy, Bool.false_eq_true, if_false]
      exact .log s _
    · exact .log s _
    · exact (Unchanged.log s _).trans (.log _ _)
    · exact .refl s
  · exact .refl s

/-! ## Moves -/

/-- The number of the call that a move is about. -/
def Move.number? : Move → Option Nat
  | .arrive n _ | .enter n _ | .answer n _ | .abandon n => some n
  | _ => none

/-- The section that a move enters, if it enters one in this world. -/
def Move.entered? (w : World η) : Move → Option Section
  | .enter n _ =>
    match w.flight n with
    | some ⟨_, some (.waiting pending)⟩ => some pending
    | _ => none
  | _ => none

/-- What a move comes to: it lets a section be entered, or sessions be removed in the background, or
it leaves the registry as it is. -/
inductive Move.Turn (a : Authority η) (w : World η) : Move → Option Section → State η → Prop
  | entered (n : Nat) (registryFree : Bool) (pending : Section) :
      Turn a w (.enter n registryFree) (some pending)
        (a.enterAndConsult w.state pending registryFree).1
  | swept (sweeper : Sweeper) (awake : sweeper.isAwake = true) (s' : State η)
      (rest : Unchanged (Authority.afterOperation w.state
        (w.state.registry.sweep w.state.now sweeper.lifetime)) s') :
      Turn a w (.sweep sweeper) none s'
  | purged (hook : Hook) (channel : Channel) (name : String)
      (ended : hook.ended? a.config.destroyOnConferenceEnd channel = some name) (s' : State η)
      (rest : Unchanged (Authority.afterOperation w.state (w.state.registry.purge name)) s') :
      Turn a w (.receive hook channel) none s'
  | waited (nanos : Nat) :
      Turn a w (.wait nanos) none { w.state with now := w.state.now + nanos }
  | relisted (change : ListenerChange) : Turn a w (.relist change) none
      { w.state with listeners := (w.state.listeners.change change).1 }
  | idle (m : Move) (asleep : ∀ sweeper, m = .sweep sweeper → sweeper.isAwake = false)
      (unended : ∀ hook channel, m = .receive hook channel →
        hook.ended? a.config.destroyOnConferenceEnd channel = none)
      (s' : State η) (unchanged : Unchanged w.state s') : Turn a w m none s'

/-- **What a move comes to.** -/
theorem World.turn (a : Authority η) (w : World η) (m : Move) :
    m.Turn a w (m.entered? w) (w.step a m).state := by
  cases m with
  | arrive n call =>
    refine .idle _ (by simp) (by simp) _ ?_
    cases hflight : w.flight n with
    | none =>
      simp only [step, hflight]
      exact a.arrive_unchanged w.state call
    | some f =>
      simp only [step, hflight]
      exact .refl w.state
  | enter n registryFree =>
    -- Only a call that waits for the registry has a section to run.
    cases hflight : w.flight n with
    | none =>
      simp only [step, Move.entered?, hflight]
      exact .idle _ (by simp) (by simp) _ (.refl w.state)
    | some f =>
      obtain ⟨call, progress⟩ := f
      cases progress with
      | none =>
        simp only [step, Move.entered?, hflight]
        exact .idle _ (by simp) (by simp) _ (.refl w.state)
      | some step =>
        cases step with
        | waiting pending =>
          simp only [World.step, Move.entered?, hflight]
          exact .entered n registryFree pending
        | verifying _ | answered _ =>
          simp only [World.step, Move.entered?, hflight]
          exact .idle _ (by simp) (by simp) _ (.refl w.state)
  | answer n verdict =>
    refine .idle _ (by simp) (by simp) _ ?_
    unfold step
    dsimp only
    split
    · exact Authority.conclude_unchanged w.state _ verdict
    · exact .refl w.state
  | abandon n =>
    refine .idle _ (by simp) (by simp) _ ?_
    unfold step
    dsimp only
    split <;> exact .refl w.state
  | wait nanos => exact .waited nanos
  | sweep sweeper =>
    cases hawake : sweeper.isAwake with
    | true => exact .swept sweeper hawake _ (Sweeper.sweep_unchanged_of_isAwake hawake w.state)
    | false =>
      refine .idle _ ?_ (by simp) _ ?_
      · rintro sweeper' ⟨⟩
        exact hawake
      · simp only [step, Sweeper.sweep_of_not_isAwake hawake]
        exact .refl w.state
  | receive hook channel =>
    cases hended : hook.ended? a.config.destroyOnConferenceEnd channel with
    | some name =>
      exact .purged hook channel name hended _ (Hook.receive_unchanged_of_ended hended w.state)
    | none =>
      refine .idle _ (by simp) ?_ _ (Hook.receive_unchanged_of_not_ended hended w.state)
      rintro hook' channel' ⟨⟩
      exact hended
  | relist change => exact .relisted change

end Admittance
