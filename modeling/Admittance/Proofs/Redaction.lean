import Admittance.Proofs.Deployment
import Admittance.Proofs.Effect
import Admittance.Proofs.Searches

/-!
# What is left without credentials

Credentials come in with a join and are shown to its verifier.  To *redact* a thing is to put the
empty map in place of all credentials that it holds: a request, a call, a section, a question to the
verifier, and whatever these are part of, up to a whole world.  Nothing else is taken away, so two
things that differ in credentials only are the same once they are redacted.

Whatever an authority does, redaction commutes with it.  The lemmas below say so of one function
after the other, from the operations on a registry, which show no credentials because they see none,
through the sections of a call to a move of a world (`World.redacted_stepIn`) and to the turn of a
task (`Crew.redacted_take`).
-/

namespace Admittance

variable {η α : Type}

/-! ## Redaction -/

/-- The request without credentials. -/
def JoinRequest.redacted (q : JoinRequest) : JoinRequest := { q with credentials := .empty }

/-- What a verifier is shown, without credentials. -/
def VerifyContext.redacted (context : VerifyContext) : VerifyContext :=
  { context with request := context.request.redacted }

/-- The call without credentials; only joins have any. -/
def Call.redacted : Call → Call
  | .join q requester => .join q.redacted requester
  | call => call

/-- The section without credentials. -/
def Section.redacted : Section → Section
  | .whole call => .whole call.redacted
  | .precheck q requester => .precheck q.redacted requester
  | .commit q requester grant => .commit q.redacted requester grant

/-- How far a call has come, without credentials. -/
def Progress.redacted : Progress → Progress
  | .answered answer => .answered answer
  | .waiting pending => .waiting pending.redacted
  | .verifying context => .verifying context.redacted

/-- The notice without credentials. -/
def Notice.redacted : Notice → Notice
  | .consulted context registryFree => .consulted context.redacted registryFree
  | n => n

/-- The state without the credentials that were shown to a verifier. -/
def State.redacted (s : State η) : State η :=
  { s with trace := s.trace.map fun e => (e.1, e.2.redacted) }

/-- The call in flight without credentials. -/
def Flight.redacted (f : Flight) : Flight := ⟨f.call.redacted, f.progress.map Progress.redacted⟩

/-- The world without credentials. -/
def World.redacted (w : World η) : World η :=
  ⟨w.state.redacted, fun n => (w.flight n).map Flight.redacted⟩

/-- The move without credentials. -/
def Move.redacted : Move → Move
  | .arrive n call => .arrive n call.redacted
  | m => m

/-- Credentials are no part of what a request presents. -/
@[simp] lemma JoinRequest.presentedToken_redacted (q : JoinRequest) :
    q.redacted.presentedToken = q.presentedToken := rfl

/-- Answers show no credentials. -/
@[simp] lemma Flight.answer?_redacted (f : Flight) : f.redacted.answer? = f.answer? := by
  obtain ⟨call, progress⟩ := f
  cases progress with
  | none => rfl
  | some progress => cases progress <;> rfl

/-! ## What is seen of a registry -/

/-- The notice says that a verifier is asked. -/
def Notice.isQuestion : Notice → Bool
  | .consulted .. => true
  | _ => false

/-- Only what a verifier is asked shows credentials. -/
lemma Notice.redacted_of_not_isQuestion {n : Notice} (h : n.isQuestion = false) :
    n.redacted = n := by
  cases n with
  | consulted => cases h
  | event | record | heard | relisted => rfl

namespace Registry

variable {r : Registry} {n : Notice}

/-- A report of an event asks no verifier. -/
lemma isQuestion_report {e : Event} (hn : n ∈ r.report e) : n.isQuestion = false := by
  unfold report Event.reportedTo at hn
  split at hn
  · rw [List.mem_singleton.mp hn]
    rfl
  · rw [List.mem_singleton.mp hn]
    rfl

/-- Opening a session asks no verifier. -/
lemma isQuestion_create {now : Instant} {d : Drawing} {machineId identity conferenceName : String}
    {properties : TextMap}
    (hn : n ∈ (r.create now d machineId identity conferenceName properties).notices) :
    n.isQuestion = false := by
  rcases List.mem_append.mp hn with hn | hn
  · obtain ⟨record, -, rfl⟩ := List.mem_map.mp hn
    rfl
  · exact isQuestion_report hn

/-- Attaching a connection asks no verifier. -/
lemma isQuestion_attach {now : Instant} {t : SessionToken} {peer : PeerAddress}
    (hn : n ∈ (r.attach now t peer).notices) : n.isQuestion = false := by
  unfold attach at hn
  split at hn
  · cases hn
  · obtain ⟨x, -, rfl⟩ := List.mem_map.mp hn
    rfl

/-- Removing a session by its token asks no verifier. -/
lemma isQuestion_destroy {t : SessionToken} (hn : n ∈ (r.destroy t).notices) :
    n.isQuestion = false := by
  unfold destroy at hn
  split at hn
  · cases hn
  · rcases List.mem_cons.mp hn with rfl | hn
    · rfl
    · exact isQuestion_report hn

/-- Removing several sessions asks no verifier. -/
lemma isQuestion_removeWhere {reason : RemovalReason} {doomed : Session → Bool}
    (hn : n ∈ (r.removeWhere reason doomed).notices) : n.isQuestion = false := by
  unfold removeWhere at hn
  split at hn
  · split at hn
    · cases hn
    · rw [List.mem_singleton.mp hn]
      rfl
  · obtain ⟨x, -, hn⟩ := List.mem_flatMap.mp hn
    rcases List.mem_cons.mp hn with rfl | hn
    · rfl
    · exact isQuestion_report hn

end Registry

/-- Telling listeners asks no verifier. -/
lemma ListenerSet.isQuestion_of_mem_call {react : η → ListenerId → Reaction η} {news : News}
    {index : Nat} {ls : List ListenerId} {host : η} {set : ListenerSet} {n : Notice}
    (hn : n ∈ (call react news index ls host set).2.2) : n.isQuestion = false := by
  rcases mem_call hn with ⟨l, rfl⟩ | ⟨added, l, changed, rfl⟩ | ⟨i, message, rfl⟩
  · rfl
  · rfl
  · rfl

/-! ## States -/

namespace State

variable (s : State η)

@[simp] lemma now_redacted : s.redacted.now = s.now := rfl

@[simp] lemma registry_redacted : s.redacted.registry = s.registry := rfl

@[simp] lemma drawn_redacted : s.redacted.drawn = s.drawn := rfl

@[simp] lemma listeners_redacted : s.redacted.listeners = s.listeners := rfl

@[simp] lemma host_redacted : s.redacted.host = s.host := rfl

/-- What is redacted may be redacted before it is noted, and what was there before it too. -/
lemma redacted_note (notices : List Notice) :
    (s.note notices).redacted = s.redacted.note (notices.map Notice.redacted) := by
  simp only [redacted, note, List.map_append, List.map_map]
  rfl

/-- Where no verifier is asked nothing is redacted. -/
lemma redacted_note_of_plain {notices : List Notice}
    (h : ∀ n ∈ notices, n.isQuestion = false) :
    (s.note notices).redacted = s.redacted.note notices := by
  have hsame : notices.map Notice.redacted = notices.map id :=
    List.map_congr_left fun n hn => Notice.redacted_of_not_isQuestion (h n hn)
  rw [redacted_note, hsame, List.map_id]

/-- A record of the log shows no credentials. -/
@[simp] lemma redacted_log (record : Log.Record) :
    (s.log record).redacted = s.redacted.log record :=
  s.redacted_note _

/-- An operation on the registry is noted in a redacted state as it is in the other. -/
lemma redacted_afterOperation {o : Registry.Outcome α}
    (h : ∀ n ∈ o.notices, n.isQuestion = false) :
    (Authority.afterOperation s o).redacted = Authority.afterOperation s.redacted o :=
  redacted_note_of_plain { s with registry := o.registry } h

end State

/-- Whatever is seen is a question as much as before. -/
lemma Notice.isQuestion_redacted (n : Notice) : n.redacted.isQuestion = n.isQuestion := by
  cases n <;> rfl

/-- All that is seen but what verifiers are asked. -/
def State.spoken (s : State η) : List (Instant × Notice) :=
  s.trace.filter fun e => !e.2.isQuestion

/-- What verifiers are asked, and when. -/
def State.questions (s : State η) : List (Instant × Notice) :=
  s.trace.filter fun e => e.2.isQuestion

/-- Nothing but questions is redacted. -/
lemma State.spoken_redacted (s : State η) : s.redacted.spoken = s.spoken := by
  have hkind : ∀ e : Instant × Notice, (!e.2.redacted.isQuestion) = !e.2.isQuestion :=
    fun e => congrArg Bool.not e.2.isQuestion_redacted
  show (s.trace.map fun e => (e.1, e.2.redacted)).filter (fun e => !e.2.isQuestion) = _
  simp only [List.filter_map, Function.comp_def, hkind]
  refine (List.map_congr_left fun e he => ?_).trans (List.map_id _)
  have hquiet : e.2.isQuestion = false := by simpa using (List.mem_filter.mp he).2
  exact Prod.ext rfl (Notice.redacted_of_not_isQuestion hquiet)

/-- The same questions are left, without credentials. -/
lemma State.questions_redacted (s : State η) :
    s.redacted.questions = s.questions.map fun e => (e.1, e.2.redacted) := by
  show (s.trace.map fun e => (e.1, e.2.redacted)).filter (fun e => e.2.isQuestion) = _
  simp only [List.filter_map, Function.comp_def, Notice.isQuestion_redacted]
  rfl

/-! ## Calls that need the registry once -/

namespace Authority

variable (a : Authority η) (s : State η)

/-- The end of a conference takes the same sessions out of a redacted state. -/
lemma redacted_purgeEnded (name : String) :
    purgeEnded s.redacted name = Prod.map State.redacted id (purgeEnded s name) := by
  have hpurged : (afterOperation s (s.registry.purge name)).redacted =
      afterOperation s.redacted (s.registry.purge name) :=
    s.redacted_afterOperation fun _ hn => Registry.isQuestion_removeWhere hn
  unfold purgeEnded
  dsimp only [State.registry_redacted]
  rw [← hpurged]
  split
  · exact Prod.ext (State.redacted_log _ _).symm rfl
  · rfl

/-- A logout does to a redacted state what it does to the other. -/
lemma redacted_logout (t : SessionToken) :
    a.logout s.redacted t = Prod.map State.redacted id (a.logout s t) := by
  unfold logout
  rw [State.registry_redacted]
  split
  · rfl
  · have hdestroyed := s.redacted_afterOperation (o := s.registry.destroy t)
      fun _ hn => Registry.isQuestion_destroy hn
    exact Prod.ext hdestroyed.symm rfl

/-- A call that needs the registry once comes to the same. -/
lemma redacted_runWhole (call : Call) :
    a.runWhole s.redacted call.redacted = Prod.map State.redacted id (a.runWhole s call) := by
  cases call with
  | logout t =>
    simp only [Call.redacted, runWhole, redacted_logout]
    rfl
  | conferenceEnded name =>
    simp only [Call.redacted, runWhole, redacted_purgeEnded]
    rfl
  | create machineId identity conferenceName properties =>
    have hcreated := s.redacted_afterOperation
      (o := s.registry.create s.now (a.draw s.drawn) machineId identity conferenceName properties)
      fun _ hn => Registry.isQuestion_create hn
    exact Prod.ext (congrArg (fun t => { t with drawn := s.drawn + 1 }) hcreated.symm) rfl
  | attach t peer =>
    have hattached := s.redacted_afterOperation (o := s.registry.attach s.now t peer)
      fun _ hn => Registry.isQuestion_attach hn
    exact Prod.ext hattached.symm rfl
  | destroy t =>
    have hdestroyed := s.redacted_afterOperation (o := s.registry.destroy t)
      fun _ hn => Registry.isQuestion_destroy hn
    exact Prod.ext hdestroyed.symm rfl
  | purge name =>
    have hpurged := s.redacted_afterOperation (o := s.registry.purge name)
      fun _ hn => Registry.isQuestion_removeWhere hn
    exact Prod.ext hpurged.symm rfl
  | sweep offset lifetime =>
    have hswept := s.redacted_afterOperation (o := s.registry.sweep (s.now + offset) lifetime)
      fun _ hn => Registry.isQuestion_removeWhere hn
    exact Prod.ext hswept.symm rfl
  | join | lookup | session | sessionText | sessionCount | findByIdentity | findByPeer
  | registryText | setSink => rfl

/-! ## Joins -/

/-- A refusal is the same in a redacted state. -/
lemma redacted_refuse (refusal : AuthError × Log.Record) :
    refuse s.redacted refusal = Prod.map State.redacted Progress.redacted (refuse s refusal) :=
  Prod.ext (s.redacted_log _).symm rfl

/-- A call arrives in the same way. -/
lemma redacted_arrive (call : Call) :
    a.arrive s.redacted call.redacted =
      Prod.map State.redacted Progress.redacted (a.arrive s call) := by
  cases call with
  | join q requester =>
    simp only [Call.redacted, arrive, JoinRequest.redacted]
    split
    · exact redacted_refuse s _
    · rfl
  | conferenceEnded name =>
    simp only [Call.redacted, arrive]
    split
    · rfl
    · exact Prod.ext (s.redacted_log _).symm rfl
  | _ => rfl

/-- A pre-check looks at the token and the machine only. -/
lemma redacted_enterPrecheck (q : JoinRequest) (requester : PeerAddress) :
    a.enterPrecheck s.redacted q.redacted requester =
      Prod.map State.redacted Progress.redacted (a.enterPrecheck s q requester) := by
  have hprecheck : Join.precheck s.registry q.redacted = Join.precheck s.registry q := rfl
  unfold enterPrecheck
  rw [State.registry_redacted, hprecheck]
  split
  · exact redacted_refuse s _
  · split
    · rfl
    · rfl

/-- The verifier's answer is all that comes of its question. -/
lemma redacted_conclude (context : VerifyContext) (verdict : Verdict) :
    conclude s.redacted context.redacted verdict =
      Prod.map State.redacted Progress.redacted (conclude s context verdict) := by
  have hjudge : Join.judge context.redacted.peer context.redacted.request.machineId
      context.redacted.session verdict =
        Join.judge context.peer context.request.machineId context.session verdict := rfl
  unfold conclude
  rw [hjudge]
  split
  · exact redacted_refuse s _
  · rfl

/-- A verifier that is shown a redacted request leaves a redacted question. -/
lemma redacted_consult (context : VerifyContext) (registryFree : Bool) :
    consult s.redacted context.redacted registryFree =
      (consult s context registryFree).redacted :=
  (s.redacted_note [.consulted context registryFree]).symm

/-- Listeners are told of a session, not of a request. -/
lemma redacted_announce (requester : PeerAddress) (x : Session) :
    a.announce s.redacted requester x = (a.announce s requester x).redacted := by
  refine (State.redacted_note_of_plain { s with
    host := (notified a s requester x).1
    listeners := (notified a s requester x).2.1 } fun n hn => ?_).symm
  exact ListenerSet.isQuestion_of_mem_call hn

end Authority

namespace Join

variable {attach : Attachment} {r : Registry} {now : Instant} {d : Drawing} {q : JoinRequest}
  {requester : PeerAddress} {g : Grant}

/-- A commit comes to the same session whatever the credentials were. -/
lemma seat_redacted : seat r now d q.redacted g = seat r now d q g := by
  cases g <;> rfl

/-- A commit looks at no credentials, however the connection is attached. -/
lemma commit_redacted :
    commit attach r now d q.redacted requester g = commit attach r now d q requester g := by
  unfold commit
  rw [seat_redacted]

/-- Finding or opening the session of a join asks no verifier. -/
lemma isQuestion_seat {st : Seat} (h : seat r now d q g = .ok st) {n : Notice}
    (hn : n ∈ st.notices) : n.isQuestion = false := by
  cases g with
  | reuse t =>
    simp only [seat] at h
    split at h
    · cases h
    · cases h
      cases hn
  | verified v =>
    simp only [seat] at h
    split at h
    · cases h
      cases hn
    · cases h
      exact Registry.isQuestion_create hn

/-- A commit asks no verifier if its attachment asks none. -/
lemma isQuestion_commit (hattach : ∀ r t, ∀ n ∈ (attach r t).notices, n.isQuestion = false)
    {n : Notice} (hn : n ∈ (commit attach r now d q requester g).notices) :
    n.isQuestion = false := by
  unfold commit at hn
  split at hn
  · rw [List.mem_singleton.mp hn]
    rfl
  · rename_i st hseat
    dsimp only at hn
    split at hn
    · exact isQuestion_seat hseat hn
    · rcases List.mem_append.mp hn with hn | hn
      · rcases List.mem_append.mp hn with hn | hn
        · exact isQuestion_seat hseat hn
        · exact hattach _ _ n hn
      · rw [List.mem_singleton.mp hn]
        rfl

/-- No attachment asks a verifier, whatever the order in which the sessions come up. -/
lemma isQuestion_attachIn (o : SearchOrder) (i : Nat) (now : Instant) (requester : PeerAddress)
    (r : Registry) (t : SessionToken) :
    ∀ n ∈ (attachIn o i now requester r t).notices, n.isQuestion = false :=
  fun _ hn => Registry.isQuestion_attach hn

end Join

namespace Authority

variable (a : Authority η) (s : State η) (o : SearchOrder) (i : Nat)

/-- A commit looks at the machine and the conference only. -/
lemma redacted_enterCommitIn (q : JoinRequest) (requester : PeerAddress) (g : Join.Grant) :
    a.enterCommitIn o i s.redacted q.redacted requester g =
      Prod.map State.redacted Progress.redacted (a.enterCommitIn o i s q requester g) := by
  have hquiet : ∀ n ∈ (Join.commit (Join.attachIn o i s.now requester) s.registry s.now
      (a.draw s.drawn) q requester g).notices, n.isQuestion = false :=
    fun _ hn => Join.isQuestion_commit (Join.isQuestion_attachIn o i s.now requester) hn
  unfold enterCommitIn enterCommitBy
  simp only [State.registry_redacted, State.now_redacted, State.drawn_redacted,
    Join.commit_redacted]
  generalize Join.commit (Join.attachIn o i s.now requester) s.registry s.now (a.draw s.drawn) q
    requester g = c at hquiet ⊢
  have hcommitted : (⟨s.now, c.registry, if c.drew then s.drawn + 1 else s.drawn, s.listeners,
        s.host, s.redacted.trace⟩ : State η).note c.notices =
      ((⟨s.now, c.registry, if c.drew then s.drawn + 1 else s.drawn, s.listeners, s.host,
        s.trace⟩ : State η).note c.notices).redacted :=
    (State.redacted_note_of_plain (⟨s.now, c.registry, if c.drew then s.drawn + 1 else s.drawn,
      s.listeners, s.host, s.trace⟩ : State η) hquiet).symm
  split
  · exact Prod.ext hcommitted rfl
  · rename_i x _
    have hannounced := congrArg (fun t => a.announce t requester x) hcommitted
    exact Prod.ext (hannounced.trans (a.redacted_announce _ requester x)) rfl

/-- Any section comes to the same, with the question to the verifier that may follow. -/
lemma redacted_enterAndConsultIn (pending : Section) (registryFree : Bool) :
    a.enterAndConsultIn o i s.redacted pending.redacted registryFree =
      Prod.map State.redacted Progress.redacted
        (a.enterAndConsultIn o i s pending registryFree) := by
  have hentered : a.enterIn o i s.redacted pending.redacted =
      Prod.map State.redacted Progress.redacted (a.enterIn o i s pending) := by
    cases pending with
    | whole call =>
      have hrun := a.redacted_runWhole s call
      simp only [Section.redacted, enterIn, enter, hrun]
      rfl
    | precheck q requester => exact a.redacted_enterPrecheck s q requester
    | commit q requester g => exact a.redacted_enterCommitIn s o i q requester g
  unfold enterAndConsultIn consulting
  rw [hentered]
  generalize a.enterIn o i s pending = reached
  obtain ⟨t, progress⟩ := reached
  cases progress with
  | verifying context => exact Prod.ext (redacted_consult t context registryFree) rfl
  | answered | waiting => rfl

end Authority

/-! ### Silence towards verifiers -/

/-- No verifier has been asked meanwhile. -/
def Unasked (s s' : State η) : Prop :=
  ∃ news, s'.trace = s.trace ++ news ∧ ∀ e ∈ news, e.2.isQuestion = false

namespace Unasked

/-- Where nothing happens, no verifier is asked. -/
lemma refl (s : State η) : Unasked s s := ⟨[], (List.append_nil _).symm, by simp⟩

/-- Without a question, all questions are those from before. -/
lemma questions {s s' : State η} (h : Unasked s s') : s'.questions = s.questions := by
  obtain ⟨news, htrace, hnews⟩ := h
  have hnone : news.filter (fun e => e.2.isQuestion) = [] := by
    rw [List.filter_eq_nil_iff]
    intro e he
    rw [hnews e he]
    exact Bool.false_ne_true
  rw [State.questions, htrace, List.filter_append, hnone, List.append_nil]
  rfl

/-- A record of the log is no question. -/
lemma log (s : State η) (record : Log.Record) : Unasked s (s.log record) := by
  refine ⟨_, rfl, fun e he => ?_⟩
  rw [List.mem_singleton.mp he]
  rfl

/-- A commit asks no verifier. -/
lemma commit (a : Authority η) (s : State η) (o : SearchOrder) (i : Nat) (q : JoinRequest)
    (requester : PeerAddress) (g : Join.Grant) :
    Unasked s (a.enterCommitIn o i s q requester g).1 := by
  have hquiet : ∀ n ∈ (Join.commit (Join.attachIn o i s.now requester) s.registry s.now
      (a.draw s.drawn) q requester g).notices, n.isQuestion = false :=
    fun _ hn => Join.isQuestion_commit (Join.isQuestion_attachIn o i s.now requester) hn
  unfold Authority.enterCommitIn Authority.enterCommitBy
  generalize Join.commit (Join.attachIn o i s.now requester) s.registry s.now (a.draw s.drawn) q
    requester g = c at hquiet
  dsimp only
  split
  · refine ⟨_, rfl, fun e he => ?_⟩
    obtain ⟨n, hn, rfl⟩ := List.mem_map.mp he
    exact hquiet n hn
  · refine ⟨_, List.append_assoc .., fun e he => ?_⟩
    rcases List.mem_append.mp he with he | he
    · obtain ⟨n, hn, rfl⟩ := List.mem_map.mp he
      exact hquiet n hn
    · obtain ⟨n, hn, rfl⟩ := List.mem_map.mp he
      exact ListenerSet.isQuestion_of_mem_call hn

end Unasked

/-! ## Moves -/

namespace World

variable (w : World η)

/-- What a call has come to may be redacted before it is put down. -/
lemma redacted_put (n : Nat) (call : Call) (reached : State η × Progress) :
    (w.put n call reached).redacted =
      w.redacted.put n call.redacted (Prod.map State.redacted Progress.redacted reached) :=
  congrArg (World.mk _) (Function.comp_update (Option.map Flight.redacted) w.flight n _)

/-- A caller goes away. -/
lemma redacted_abandon (a : Authority η) (n : Nat) :
    w.redacted.step a (.abandon n) = (w.step a (.abandon n)).redacted := by
  have hflight : w.redacted.flight n = (w.flight n).map Flight.redacted := rfl
  have hforgotten : ∀ call : Call,
      Function.update w.redacted.flight n (some ⟨call.redacted, none⟩) =
        Option.map Flight.redacted ∘ Function.update w.flight n (some ⟨call, none⟩) :=
    fun call => (Function.comp_update (Option.map Flight.redacted) w.flight n
      (some ⟨call, none⟩)).symm
  simp only [step, hflight]
  cases w.flight n with
  | none => rfl
  | some f =>
    obtain ⟨call, progress⟩ := f
    cases progress with
    | none => exact congrArg (World.mk _) (hforgotten call)
    | some progress =>
      cases progress with
      | answered => rfl
      | waiting | verifying => exact congrArg (World.mk _) (hforgotten call)

/-- **Redaction commutes with every move** of a call, of the clock and of the listeners. -/
theorem redacted_stepIn (o : SearchOrder) (i : Nat) (a : Authority η) {m : Move}
    (hm : m.isBackground = false) :
    w.redacted.stepIn o i a m.redacted = (w.stepIn o i a m).redacted := by
  have hflight : ∀ n, w.redacted.flight n = (w.flight n).map Flight.redacted := fun _ => rfl
  cases m with
  | arrive n call =>
    simp only [Move.redacted, stepIn, step, hflight]
    cases w.flight n with
    | none =>
      exact (congrArg _ (a.redacted_arrive w.state call)).trans (w.redacted_put n call _).symm
    | some f => rfl
  | enter n registryFree =>
    simp only [Move.redacted, stepIn, hflight]
    cases w.flight n with
    | none => rfl
    | some f =>
      obtain ⟨call, progress⟩ := f
      cases progress with
      | none => rfl
      | some progress =>
        cases progress with
        | waiting pending =>
          exact (congrArg _ (a.redacted_enterAndConsultIn w.state o i pending registryFree)).trans
            (w.redacted_put n call _).symm
        | answered | verifying => rfl
  | answer n verdict =>
    simp only [Move.redacted, stepIn, step, hflight]
    cases w.flight n with
    | none => rfl
    | some f =>
      obtain ⟨call, progress⟩ := f
      cases progress with
      | none => rfl
      | some progress =>
        cases progress with
        | verifying context =>
          exact (congrArg _ (Authority.redacted_conclude w.state context verdict)).trans
            (w.redacted_put n call _).symm
        | answered | waiting => rfl
  | abandon n => exact w.redacted_abandon a n
  | wait | relist => rfl
  | sweep | receive => cases hm

end World

/-! ## Tasks -/

section Tasks

variable (s : State η)

/-- A hook begins in a redacted state as it does in the other. -/
lemma Hook.redacted_begin (h : Hook) :
    h.begin s.redacted = Prod.map id State.redacted (h.begin s) := by
  unfold begin
  split
  · exact Prod.ext rfl (s.redacted_log _).symm
  · rfl

/-- A hook hears the same in a redacted state. -/
lemma Hook.redacted_hear (h : Hook) (eager : Bool) (c : Channel) :
    h.hear eager c s.redacted = Prod.map id (Prod.map id State.redacted) (h.hear eager c s) := by
  unfold hear
  split
  · split
    · split
      · rfl
      · exact Prod.ext rfl (Prod.ext rfl (s.redacted_log _).symm)
    · exact Prod.ext rfl (Prod.ext rfl (s.redacted_log _).symm)
    · refine Prod.ext rfl (Prod.ext rfl ?_)
      simp only [Prod.map, State.redacted_log]
    · rfl
  · rfl

/-- A hook removes the same sessions from a redacted state. -/
lemma Hook.redacted_purge (h : Hook) (name : String) :
    h.purge name s.redacted = Prod.map id State.redacted (h.purge name s) := by
  unfold purge
  rw [Authority.redacted_purgeEnded]
  generalize Authority.purgeEnded s name = reached
  obtain ⟨t, survives⟩ := reached
  cases survives <;> rfl

/-- A hook shuts down in a redacted state as it does in the other. -/
lemma Hook.redacted_shutDown (h : Hook) :
    h.shutDown s.redacted = Prod.map id State.redacted (h.shutDown s) := by
  unfold shutDown
  split
  · exact Prod.ext rfl (s.redacted_log _).symm
  · refine Prod.ext rfl ?_
    simp only [Prod.map, State.redacted_log]
  · exact Prod.ext rfl (s.redacted_log _).symm
  · rfl

/-- A sweeper removes the same sessions from a redacted state. -/
lemma Sweeper.redacted_sweep (w : Sweeper) :
    w.sweep s.redacted = Prod.map id State.redacted (w.sweep s) := by
  have hswept := s.redacted_afterOperation (o := s.registry.sweep s.now w.lifetime)
    fun _ hn => Registry.isQuestion_removeWhere hn
  unfold sweep
  dsimp only [State.registry_redacted, State.now_redacted]
  rw [← hswept]
  split
  · split
    · split
      · rfl
      · exact Prod.ext rfl (State.redacted_log _ _).symm
    · rfl
  · rfl

/-- Records for the log show no credentials. -/
lemma State.redacted_records (records : List Log.Record) :
    (s.note (records.map .record)).redacted = s.redacted.note (records.map .record) := by
  refine s.redacted_note_of_plain fun n hn => ?_
  obtain ⟨record, -, rfl⟩ := List.mem_map.mp hn
  rfl

/-- A stop comes as far in a redacted state. -/
lemma Service.redacted_continueStop (stop : Stop) :
    continueStop stop s.redacted = Prod.map id State.redacted (continueStop stop s) := by
  cases stop with
  | sweeper w hook =>
    unfold continueStop awaitSweeper
    dsimp only [State.now_redacted]
    by_cases hover : (w.shutDown s.now).isFinished = true
    · rw [if_pos hover, if_pos hover]
      exact Prod.ext rfl (s.redacted_records _).symm
    · rw [if_neg hover, if_neg hover]
      rfl
  | hook hook =>
    cases hook with
    | none => exact Prod.ext rfl (s.redacted_log _).symm
    | some hook =>
      simp only [continueStop, awaitHook, hook.redacted_shutDown s]
      exact Prod.ext rfl (State.redacted_log _ _).symm
  | finished => rfl

/-- A start spawns the same tasks in a redacted state. -/
lemma Service.redacted_start (a : Authority η) (chance : Nat → Nat) (source : Option Channel)
    (running : Option Tasks) :
    start a chance source running s.redacted =
      Prod.map id State.redacted (start a chance source running s) := by
  cases running with
  | some tasks => exact Prod.ext rfl (s.redacted_log _).symm
  | none =>
    refine Prod.ext rfl (s.redacted_note_of_plain fun n hn => ?_).symm
    rcases List.mem_append.mp hn with hn | hn
    · obtain ⟨record, -, rfl⟩ := List.mem_map.mp hn
      rfl
    · rw [List.mem_singleton.mp hn]
      rfl

/-- **Redaction commutes with every turn** of a task. -/
theorem Crew.redacted_take (eager : Bool) (source : Option Channel) (crew : Crew) (turn : Turn) :
    crew.take eager source s.redacted turn =
      Prod.map id State.redacted (crew.take eager source s turn) := by
  cases turn with
  | tick => rfl
  | sweep =>
    simp only [take, sweep, Sweeper.redacted_sweep]
    split <;> rfl
  | hear =>
    simp only [take, hear]
    split
    · rename_i hook channel _ _
      split
      · simp only [hook.redacted_begin s, Prod.map, id, Hook.redacted_hear]
      · rfl
    · rfl
  | purge =>
    simp only [take, purge, Hook.redacted_purge]
    split <;> rfl
  | proceed =>
    simp only [take, proceed]
    split
    · rfl
    · rfl
    · simp only [Service.redacted_continueStop, Prod.map, id]

end Tasks

end Admittance
