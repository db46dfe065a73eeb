import Admittance.Proofs.Interleaving

/-!
# What an authority shows

An authority writes down what the outside sees and never reads it again: whatever it does, it
would do after any other past (`Forgetful`).  Hence two states that differ only in their past, and
there only in what is not shown, stay such states when the same is done to both
(`Forgetful.alike`).

What is *shown* are the events that sinks take and what listeners are told and ask for.  The log and
the questions to the verifier are not shown: in these, a join that is torn into phases differs from
one that runs at one moment.
-/

namespace Admittance

variable {η α : Type}

/-! ## Another past -/

/-- The state in which more has been seen before everything else. -/
def State.after (past : List (Instant × Notice)) (s : State η) : State η :=
  { s with trace := past ++ s.trace }

namespace State

variable (past : List (Instant × Notice)) (s : State η)

@[simp] lemma now_after : (s.after past).now = s.now := rfl

@[simp] lemma registry_after : (s.after past).registry = s.registry := rfl

@[simp] lemma drawn_after : (s.after past).drawn = s.drawn := rfl

/-- What is noted comes after any past. -/
@[simp] lemma note_after (notices : List Notice) :
    (s.after past).note notices = (s.note notices).after past := by
  simp only [after, note, List.append_assoc]

/-- What is logged comes after any past. -/
@[simp] lemma log_after (record : Log.Record) :
    (s.after past).log record = (s.log record).after past :=
  note_after past s _

/-- An operation is noted after any past. -/
@[simp] lemma afterOperation_after (o : Registry.Outcome α) :
    Authority.afterOperation (s.after past) o = (Authority.afterOperation s o).after past :=
  note_after past { s with registry := o.registry } o.notices

end State

/-- What is done to a state does not depend on its past. -/
def Forgetful (op : State η → State η × α) : Prop :=
  ∀ past s, op (s.after past) = ((op s).1.after past, (op s).2)

namespace Authority

variable (a : Authority η)

/-- The end of a conference takes the same sessions after any past. -/
lemma purgeEnded_after (past : List (Instant × Notice)) (s : State η) (name : String) :
    purgeEnded (s.after past) name =
      ((purgeEnded s name).1.after past, (purgeEnded s name).2) := by
  simp only [purgeEnded, State.registry_after, State.afterOperation_after, State.log_after]
  split <;> rfl

/-- A call that is done in one section does not look at the past. -/
lemma runWhole_forgetful (call : Call) : Forgetful fun s => a.runWhole s call := by
  intro past s
  cases call with
  | logout token =>
    simp only [runWhole, logout, State.registry_after, State.afterOperation_after]
    cases s.registry.get? token <;> rfl
  | conferenceEnded name => simp only [runWhole, purgeEnded_after]
  | create machineId identity conferenceName properties =>
    simp only [runWhole, State.registry_after, State.now_after, State.drawn_after,
      State.afterOperation_after]
    rfl
  | attach | destroy | purge | sweep =>
    simp only [runWhole, State.registry_after, State.now_after, State.afterOperation_after]
  | join | lookup | session | sessionText | sessionCount | findByIdentity | findByPeer
  | registryText | setSink => rfl

/-- The arrival of a call does not look at the past. -/
lemma arrive_forgetful (call : Call) : Forgetful fun s => a.arrive s call := by
  intro past s
  cases call with
  | join q requester =>
    simp only [arrive, refuse, State.log_after]
    split <;> rfl
  | conferenceEnded name =>
    simp only [arrive, State.log_after]
    split <;> rfl
  | _ => rfl

/-- A commit does not look at the past. -/
lemma enterCommit_forgetful (q : JoinRequest) (requester : PeerAddress) (g : Join.Grant) :
    Forgetful fun s => a.enterCommit s q requester g := by
  intro past s
  simp only [enterCommit, enterCommitBy, announce, State.after, State.note]
  split
  · rw [List.append_assoc]
    rfl
  · simp only [List.append_assoc]
    rfl

end Authority

/-- A sweep does not look at the past. -/
lemma Sweeper.sweep_forgetful (w : Sweeper) :
    Forgetful fun s : State η => ((w.sweep s).2, ()) := by
  intro past s
  refine Prod.ext ?_ rfl
  show (w.sweep (s.after past)).2 = (w.sweep s).2.after past
  unfold sweep
  split
  · simp only [State.registry_after, State.now_after, State.afterOperation_after]
    split
    · dsimp only
      split
      · rfl
      · exact State.log_after past _ _
    · rfl
  · rfl

/-- A hook does not look at the past. -/
lemma Hook.receive_forgetful (h : Hook) (eager : Bool) (c : Channel) :
    Forgetful fun s : State η => ((h.receive eager c s).2, ()) := by
  intro past s
  refine Prod.ext ?_ rfl
  show (h.receive eager c (s.after past)).2 = (h.receive eager c s).2.after past
  have happly : ∀ name, apply eager (s.after past) name =
      ((apply eager s name).1.after past, (apply eager s name).2) := by
    intro name
    unfold apply
    split
    · exact Authority.purgeEnded_after past s name
    · rw [State.log_after]
  unfold receive
  split
  · split
    · rename_i name position _
      rw [happly]
      cases apply eager s name with
      | mk s' survives => cases survives <;> rfl
    · exact State.log_after past s _
    · simp only [State.log_after]
    · rfl
  · rfl

/-! ## Notices of a kind -/

/-- The state without the notices that are not of a kind. -/
def State.keeping (s : State η) (kind : Notice → Bool) : State η :=
  { s with trace := s.trace.filter fun e => kind e.2 }

/-- What is seen and is not of the kind makes no difference. -/
lemma State.keeping_note (s : State η) {kind : Notice → Bool} {notices : List Notice}
    (h : ∀ n ∈ notices, kind n = false) : (s.note notices).keeping kind = s.keeping kind := by
  have hnone : (notices.map fun n => (s.now, n)).filter (fun e => kind e.2) = [] := by
    rw [List.filter_eq_nil_iff]
    intro e he
    obtain ⟨n, hn, rfl⟩ := List.mem_map.mp he
    rw [h n hn]
    exact Bool.false_ne_true
  simp only [keeping, note, List.filter_append, hnone, List.append_nil]

/-- States that are the same but for notices that do not count are so after the same has been done
to them. -/
lemma Forgetful.keeping_eq {op : State η → State η × α} (hop : Forgetful op) {kind : Notice → Bool}
    {s s' : State η} (h : s'.keeping kind = s.keeping kind) :
    (op s').1.keeping kind = (op s).1.keeping kind ∧ (op s').2 = (op s).2 := by
  -- Both states come from one that has seen nothing, by a past of their own.
  have hbare : ({ s' with trace := [] } : State η) = { s with trace := [] } :=
    congrArg (fun t => ({ t with trace := [] } : State η)) h
  have htrace : s'.trace.filter (fun e => kind e.2) = s.trace.filter fun e => kind e.2 :=
    congrArg State.trace h
  have hself : ∀ t : State η, t = ({ t with trace := [] } : State η).after t.trace := fun t => by
    simp only [State.after, List.append_nil]
  have hs := hop s.trace { s with trace := [] }
  have hs' := hop s'.trace { s' with trace := [] }
  rw [← hself] at hs hs'
  rw [hs, hs', hbare]
  refine ⟨?_, rfl⟩
  simp only [State.keeping, State.after, List.filter_append, htrace]

/-! ## What is shown -/

/-- The notice tells what happens to sessions, not how it came about. -/
def Notice.isShown : Notice → Bool
  | .event .. | .heard .. | .relisted .. => true
  | .record _ | .consulted .. => false

/-- The state without what is not shown. -/
def State.shown (s : State η) : State η :=
  { s with trace := s.trace.filter fun e => e.2.isShown }

namespace State

/-- Notices that are not shown leave what is shown. -/
lemma shown_note (s : State η) {notices : List Notice} (h : ∀ n ∈ notices, n.isShown = false) :
    (s.note notices).shown = s.shown :=
  s.keeping_note h

/-- The log is not shown. -/
@[simp] lemma shown_log (s : State η) (record : Log.Record) : (s.log record).shown = s.shown :=
  s.shown_note (by simp [Notice.isShown])

/-- Questions to a verifier are not shown. -/
@[simp] lemma shown_consult (s : State η) (context : VerifyContext) (registryFree : Bool) :
    (Authority.consult s context registryFree).shown = s.shown :=
  s.shown_note (by simp [Notice.isShown])

/-- The registry is shown. -/
lemma registry_eq_of_shown {s s' : State η} (h : s'.shown = s.shown) :
    s'.registry = s.registry := by
  have hregistry := congrArg registry h
  exact hregistry

end State

/-- States that show the same show the same after the same has been done to them. -/
lemma Forgetful.alike {op : State η → State η × α} (hop : Forgetful op) {s s' : State η}
    (h : s'.shown = s.shown) : (op s').1.shown = (op s).1.shown ∧ (op s').2 = (op s).2 :=
  hop.keeping_eq h

end Admittance
