import Admittance.Proofs.Course
import Admittance.Proofs.Outlet

/-!
# States that differ in their sink

Nothing that an authority does depends on where events go.  A `Pairing` compares two outlets.
`Pairing.States` relates two states with the same sessions, clock, listeners and host, in which the
same has been uttered since certain pasts: each event was reported to the one outlet there and to
the other one here.  Whatever is done to both keeps this relation and has the same result, if the
registries report to these outlets when it begins (`Pairing.Registries`).

Only two calls are concerned with the sink itself: one replaces it, and one puts into words whether
there is one.  The former keeps the relation as well, for it is one of sessions and not of sinks.
-/

namespace Admittance

variable {η α β : Type}

/-- Two outlets, and what was seen before events went to the one and to the other. -/
structure Pairing where
  outlet : Outlet
  outlet' : Outlet
  past : List (Instant × Notice)
  past' : List (Instant × Notice)

namespace Pairing

variable {p : Pairing}

/-! ## Notices -/

/-- The same is seen with either outlet. -/
def Same (p : Pairing) (notices notices' : List Notice) : Prop :=
  ∃ uttered : List Utterance, notices = uttered.map (Utterance.seen p.outlet) ∧
    notices' = uttered.map (Utterance.seen p.outlet')

namespace Same

variable {notices notices' : List Notice}

/-- Nothing is the same with either outlet. -/
lemma nil : p.Same [] [] := ⟨[], rfl, rfl⟩

/-- An event is reported to the one outlet here and to the other one there. -/
lemma report (e : Event) : p.Same [p.outlet.report e] [p.outlet'.report e] :=
  ⟨[.report e], rfl, rfl⟩

/-- What comes later is the same with either outlet, too. -/
lemma append (h : p.Same notices notices') {later later' : List Notice}
    (hlater : p.Same later later') : p.Same (notices ++ later) (notices' ++ later') := by
  obtain ⟨uttered, rfl, rfl⟩ := h
  obtain ⟨more, rfl, rfl⟩ := hlater
  exact ⟨uttered ++ more, by rw [List.map_append], by rw [List.map_append]⟩

/-- What is no report is the same with any outlet. -/
lemma cons {n : Notice} (quiet : n.isReport = false) (h : p.Same notices notices') :
    p.Same (n :: notices) (n :: notices') := by
  obtain ⟨uttered, rfl, rfl⟩ := h
  exact ⟨.other n quiet :: uttered, rfl, rfl⟩

/-- Notices without a report are the same with any outlet. -/
lemma of_quiet (h : ∀ n ∈ notices, n.isReport = false) : p.Same notices notices := by
  induction notices with
  | nil => exact nil
  | cons n rest ih =>
    obtain ⟨hn, hrest⟩ := List.forall_mem_cons.mp h
    exact (ih hrest).cons hn

/-- What is said of one thing after the other is the same if it is so of each of them. -/
lemma flatMap {f f' : α → List Notice} (h : ∀ a, p.Same (f a) (f' a)) (as : List α) :
    p.Same (as.flatMap f) (as.flatMap f') := by
  induction as with
  | nil => exact nil
  | cons a rest ih => exact (h a).append ih

end Same

/-! ## Operations -/

/-- The registries have the same sessions and report to the two outlets. -/
inductive Registries (p : Pairing) : Registry → Registry → Prop
  | intro (sessions : List Session) (nodup : (sessions.map Session.token).Nodup) :
      Registries p ⟨sessions, p.outlet.sink?, nodup⟩ ⟨sessions, p.outlet'.sink?, nodup⟩

/-- The outcomes are the same with either outlet. -/
structure Outcomes (p : Pairing) (o o' : Registry.Outcome α) : Prop where
  sessions : o.registry.sessions = o'.registry.sessions
  value : o.value = o'.value
  notices : p.Same o.notices o'.notices

namespace Registries

variable {r r' : Registry}

/-- Registries are a pair if they have the same sessions and the two sinks. -/
lemma of_sessions_eq (h : r.sessions = r'.sessions) (hsink : r.sink = p.outlet.sink?)
    (hsink' : r'.sink = p.outlet'.sink?) : p.Registries r r' := by
  obtain ⟨sessions, sink, nodup⟩ := r
  obtain ⟨sessions', sink', nodup'⟩ := r'
  obtain rfl : sessions = sessions' := h
  obtain rfl : sink = p.outlet.sink? := hsink
  obtain rfl : sink' = p.outlet'.sink? := hsink'
  exact .intro sessions nodup

/-- Registries of a pair have the same sessions. -/
lemma sessions_eq (h : p.Registries r r') : r.sessions = r'.sessions := by
  cases h
  rfl

/-- A token is looked up with one result. -/
lemma get?_eq (h : p.Registries r r') (t : SessionToken) : r.get? t = r'.get? t := by
  cases h
  rfl

/-- A device has the same sessions. -/
lemma ofIdentity_eq (h : p.Registries r r') (machineId identity : String) :
    r.ofIdentity machineId identity = r'.ofIdentity machineId identity := by
  cases h
  rfl

/-- A device is searched with one result. -/
lemma findByIdentity?_eq (h : p.Registries r r') (machineId identity : String) :
    r.findByIdentity? machineId identity = r'.findByIdentity? machineId identity := by
  cases h
  rfl

/-- A connection is searched with one result. -/
lemma findByPeer?_eq (h : p.Registries r r') (peer : PeerAddress) :
    r.findByPeer? peer = r'.findByPeer? peer := by
  cases h
  rfl

/-- Registries of a pair have as many sessions. -/
lemma size_eq (h : p.Registries r r') : r.size = r'.size := by
  cases h
  rfl

/-- An event is reported to the two outlets. -/
lemma report (h : p.Registries r r') (e : Event) :
    p.Same (r.report e) (r'.report e) := by
  cases h with
  | intro sessions nodup =>
    rw [Outlet.report_eq (x := p.outlet) rfl, Outlet.report_eq (x := p.outlet') rfl]
    exact .report e

/-- A session is opened in both, under the same token. -/
lemma create (h : p.Registries r r') (now : Instant) (d : Drawing)
    (machineId identity conferenceName : String) (properties : TextMap) :
    p.Outcomes (r.create now d machineId identity conferenceName properties)
      (r'.create now d machineId identity conferenceName properties) := by
  have hreport := h.report
  cases h with
  | intro sessions nodup =>
    refine ⟨rfl, rfl, (Same.of_quiet ?_).append (hreport _)⟩
    intro n hn
    obtain ⟨record, hrecord, rfl⟩ := List.mem_map.mp hn
    rcases List.mem_append.mp hrecord with hcollision | hcreated
    · rw [List.eq_of_mem_replicate hcollision]
      rfl
    · rw [List.mem_singleton.mp hcreated]
      rfl

/-- A session is removed from both or from none. -/
lemma destroy (h : p.Registries r r') (t : SessionToken) :
    p.Outcomes (r.destroy t) (r'.destroy t) := by
  unfold Registry.destroy
  rw [← h.get?_eq t]
  split
  · exact ⟨h.sessions_eq, rfl, .nil⟩
  · refine ⟨?_, rfl, .cons rfl (h.report _)⟩
    simp only [Registry.restrict, h.sessions_eq]

/-- The same sessions are removed from both, one after the other. -/
lemma removeWhere (h : p.Registries r r') (reason : RemovalReason) (doomed : Session → Bool) :
    p.Outcomes (r.removeWhere reason doomed) (r'.removeWhere reason doomed) := by
  have hreport := h.report
  cases h with
  | intro sessions nodup =>
    unfold Registry.removeWhere
    rw [Outlet.sinkIsFragile_eq (x := p.outlet) rfl, Outlet.sinkIsFragile_eq (x := p.outlet') rfl]
    exact ⟨rfl, rfl, .flatMap (fun _ => .cons rfl (hreport _)) _⟩

end Registries

/-- To let a connection use a session tells no sink. -/
lemma outcomes_attach {r r' : Registry} (h : r.sessions = r'.sessions) (now : Instant)
    (t : SessionToken) (peer : PeerAddress) :
    p.Outcomes (r.attach now t peer) (r'.attach now t peer) := by
  obtain ⟨sessions, sink, nodup⟩ := r
  obtain ⟨sessions', sink', nodup'⟩ := r'
  obtain rfl : sessions = sessions' := h
  have hget :
      Registry.get? ⟨sessions, sink, nodup⟩ t = Registry.get? ⟨sessions, sink', nodup⟩ t := rfl
  unfold Registry.attach
  rw [← hget]
  split
  · exact ⟨rfl, rfl, .nil⟩
  · refine ⟨rfl, rfl, .of_quiet ?_⟩
    intro n hn
    obtain ⟨rival, -, rfl⟩ := List.mem_map.mp hn
    rfl

/-! ### Joins -/

/-- Coming by a session has led to the same. -/
inductive Seats (p : Pairing) : Except (AuthError × Log.Record) Join.Seat →
    Except (AuthError × Log.Record) Join.Seat → Prop
  | refused (error : AuthError) (record : Log.Record)
      (quiet : (Notice.record record).isReport = false) :
      Seats p (.error (error, record)) (.error (error, record))
  | seated {q q' : Registry} (sessions : q.sessions = q'.sessions) (token : SessionToken)
      (drew : Bool) {notices notices' : List Notice} (same : p.Same notices notices') :
      Seats p (.ok ⟨q, token, drew, notices⟩) (.ok ⟨q', token, drew, notices'⟩)

/-- A commit finds or opens the same session in both. -/
lemma Registries.seat {r r' : Registry} (h : p.Registries r r') (now : Instant) (d : Drawing)
    (q : JoinRequest) (g : Join.Grant) :
    p.Seats (Join.seat r now d q g) (Join.seat r' now d q g) := by
  cases g with
  | reuse t =>
    simp only [Join.seat, ← h.get?_eq t]
    split
    · exact .refused _ _ rfl
    · exact .seated h.sessions_eq _ _ .nil
  | verified v =>
    simp only [Join.seat, ← h.findByIdentity?_eq]
    split
    · exact .seated h.sessions_eq _ _ .nil
    · have hcreate := h.create now d q.machineId v.identity q.conferenceName v.properties
      rw [← hcreate.value]
      exact .seated hcreate.sessions _ _ hcreate.notices

/-- The commits have led to the same. -/
structure Commits (p : Pairing) (c c' : Join.Commit) : Prop where
  sessions : c.registry.sessions = c'.registry.sessions
  result : c.result = c'.result
  drew : c.drew = c'.drew
  notices : p.Same c.notices c'.notices

/-- A commit comes to the same with either outlet. -/
lemma Registries.commit {r r' : Registry} (h : p.Registries r r') (o : SearchOrder) (i : Nat)
    (now : Instant) (d : Drawing) (q : JoinRequest) (requester : PeerAddress) (g : Join.Grant) :
    p.Commits (Join.commit (Join.attachIn o i now requester) r now d q requester g)
      (Join.commit (Join.attachIn o i now requester) r' now d q requester g) := by
  have hseats := h.seat now d q g
  unfold Join.commit
  generalize Join.seat r now d q g = reached, Join.seat r' now d q g = reached' at hseats
  cases hseats with
  | refused error record quiet =>
    exact ⟨h.sessions_eq, rfl, rfl, .cons quiet .nil⟩
  | @seated q q' sessions token drew notices notices' same =>
    have harranged : (q.arranged o i).sessions = (q'.arranged o i).sessions :=
      congrArg (o.arrange i) sessions
    have hattach : p.Outcomes _ _ := outcomes_attach harranged now token requester
    dsimp only [Join.attachIn]
    rw [← hattach.value]
    split
    · exact ⟨hattach.sessions, rfl, rfl, same⟩
    · refine ⟨hattach.sessions, rfl, rfl, ?_⟩
      exact (same.append hattach.notices).append (.cons rfl .nil)

/-! ## States -/

/-- The states are the same but for their sinks, and the same has been seen since the pasts. -/
structure States (p : Pairing) (s s' : State η) : Prop where
  now : s.now = s'.now
  sessions : s.registry.sessions = s'.registry.sessions
  drawn : s.drawn = s'.drawn
  listeners : s.listeners = s'.listeners
  host : s.host = s'.host
  uttered : ∃ uttered, s.trace = p.past ++ p.outlet.shows uttered ∧
    s'.trace = p.past' ++ p.outlet'.shows uttered

/-- What has been reached is the same. -/
structure Reached (p : Pairing) (reached reached' : State η × β) : Prop where
  state : p.States reached.1 reached'.1
  value : reached.2 = reached'.2

namespace States

variable {s s' : State η}

/-- What is the same with either outlet may be noted in both. -/
lemma note (h : p.States s s') {notices notices' : List Notice}
    (hsame : p.Same notices notices') :
    p.States (s.note notices) (s'.note notices') := by
  refine ⟨h.now, h.sessions, h.drawn, h.listeners, h.host, ?_⟩
  obtain ⟨before, htrace, htrace'⟩ := h.uttered
  obtain ⟨uttered, rfl, rfl⟩ := hsame
  refine ⟨before ++ uttered.map fun u => (s.now, u), ?_, ?_⟩
  · simp only [State.note, htrace, Outlet.shows, List.map_append, List.map_map, List.append_assoc]
    rfl
  · simp only [State.note, htrace', ← h.now, Outlet.shows, List.map_append, List.map_map,
      List.append_assoc]
    rfl

/-- A record that is no report. -/
lemma log (h : p.States s s') (record : Log.Record)
    (quiet : (Notice.record record).isReport = false) : p.States (s.log record) (s'.log record) :=
  h.note (.cons quiet .nil)

/-- An operation that does the same to both registries may be noted in both. -/
lemma afterOperation (h : p.States s s') {o o' : Registry.Outcome α} (ho : p.Outcomes o o') :
    p.States (Authority.afterOperation s o) (Authority.afterOperation s' o') := by
  have hregistry : p.States { s with registry := o.registry } { s' with registry := o'.registry } :=
    ⟨h.now, ho.sessions, h.drawn, h.listeners, h.host, h.uttered⟩
  exact hregistry.note ho.notices

end States

/-! ## Calls -/

section Calls

variable (a : Authority η) {s s' : State η}

/-- A refusal is the same in both. -/
lemma States.refuse (h : p.States s s') (refusal : AuthError × Log.Record)
    (quiet : (Notice.record refusal.2).isReport = false) :
    p.Reached (Authority.refuse s refusal) (Authority.refuse s' refusal) :=
  ⟨h.log _ quiet, rfl⟩

/-- A call comes as far on its arrival in both. -/
lemma States.arrive (h : p.States s s') (call : Call) :
    p.Reached (a.arrive s call) (a.arrive s' call) := by
  unfold Authority.arrive
  split
  · split
    · exact h.refuse _ rfl
    · exact ⟨h, rfl⟩
  · split
    · exact ⟨h, rfl⟩
    · exact ⟨h.log _ rfl, rfl⟩
  · exact ⟨h, rfl⟩

/-- No verdict is a report. -/
lemma isReport_judge {requester : PeerAddress} {machineId : String} {presented : Option Session}
    {verdict : Verdict} {refusal : AuthError × Log.Record}
    (h : Join.judge requester machineId presented verdict = .error refusal) :
    (Notice.record refusal.2).isReport = false := by
  unfold Join.judge at h
  split at h
  · cases h
    rfl
  · split at h
    · cases h
      rfl
    · split at h
      · cases h
      · split at h
        · cases h
        · cases h
          rfl

/-- The verifier's answer has the same consequence in both. -/
lemma States.conclude (h : p.States s s') (context : VerifyContext) (verdict : Verdict) :
    p.Reached (Authority.conclude s context verdict) (Authority.conclude s' context verdict) := by
  unfold Authority.conclude
  split
  · rename_i hjudge
    exact h.refuse _ (isReport_judge hjudge)
  · exact ⟨h, rfl⟩

/-- Listeners are told the same in both. -/
lemma States.announce (h : p.States s s') (requester : PeerAddress) (x : Session) :
    p.States (a.announce s requester x) (a.announce s' requester x) := by
  unfold Authority.announce
  rw [h.host, h.listeners]
  refine States.note ?_ (Same.of_quiet fun n hn => Notice.isReport_of_mem_call hn)
  exact ⟨h.now, h.sessions, h.drawn, rfl, rfl, h.uttered⟩

/-- A logout comes to the same in both. -/
lemma States.logout (h : p.States s s') (hr : p.Registries s.registry s'.registry)
    (t : SessionToken) : p.Reached (a.logout s t) (a.logout s' t) := by
  unfold Authority.logout
  rw [← hr.get?_eq t]
  split
  · exact ⟨h, rfl⟩
  · exact ⟨h.afterOperation (hr.destroy t), rfl⟩

/-- The end of a conference takes the same sessions in both. -/
lemma States.purgeEnded (h : p.States s s') (hr : p.Registries s.registry s'.registry)
    (name : String) : p.Reached (Authority.purgeEnded s name) (Authority.purgeEnded s' name) := by
  have hpurge : p.Outcomes (s.registry.purge name) (s'.registry.purge name) :=
    hr.removeWhere .conferenceEnded _
  unfold Authority.purgeEnded
  dsimp only
  rw [← hpurge.value]
  split
  · exact ⟨(h.afterOperation hpurge).log _ rfl, rfl⟩
  · exact ⟨h.afterOperation hpurge, rfl⟩

/-- The states are as they were but for the sinks that a call puts in place. -/
lemma States.setSink (h : p.States s s') (sink? sink'? : Option Sink) :
    p.States { s with registry := { s.registry with sink := sink? } }
      { s' with registry := { s'.registry with sink := sink'? } } :=
  ⟨h.now, h.sessions, h.drawn, h.listeners, h.host, h.uttered⟩

/-- Every call but one has the same answer with either outlet. -/
lemma States.runWhole (h : p.States s s') (hr : p.Registries s.registry s'.registry) {call : Call}
    (hcall : call ≠ .registryText) : p.Reached (a.runWhole s call) (a.runWhole s' call) := by
  cases call with
  | join q requester => exact ⟨h, rfl⟩
  | logout t =>
    have hlogout := h.logout a hr t
    exact ⟨hlogout.state, congrArg Answer.logout hlogout.value⟩
  | lookup peer => exact ⟨h, by simp only [Authority.runWhole, hr.findByPeer?_eq]⟩
  | conferenceEnded name => exact ⟨(h.purgeEnded hr name).state, rfl⟩
  | session t => exact ⟨h, by simp only [Authority.runWhole, hr.get?_eq]⟩
  | sessionText t => exact ⟨h, by simp only [Authority.runWhole, hr.get?_eq]⟩
  | sessionCount => exact ⟨h, by simp only [Authority.runWhole, hr.size_eq]⟩
  | create machineId identity conferenceName properties =>
    have hcreate := hr.create s.now (a.draw s.drawn) machineId identity conferenceName properties
    have hcreated := h.afterOperation hcreate
    simp only [Authority.runWhole, ← h.now, ← h.drawn]
    refine ⟨⟨hcreated.now, hcreated.sessions, rfl, hcreated.listeners, hcreated.host,
      hcreated.uttered⟩, ?_⟩
    exact congrArg (fun x => Answer.session (some x)) hcreate.value
  | findByIdentity machineId identity =>
    exact ⟨h, by simp only [Authority.runWhole, hr.ofIdentity_eq]⟩
  | findByPeer peer => exact ⟨h, by simp only [Authority.runWhole, hr.findByPeer?_eq]⟩
  | attach t peer =>
    have hattach : p.Outcomes (s.registry.attach s.now t peer) (s'.registry.attach s.now t peer) :=
      outcomes_attach hr.sessions_eq s.now t peer
    simp only [Authority.runWhole, ← h.now]
    exact ⟨h.afterOperation hattach, congrArg Answer.session hattach.value⟩
  | destroy t =>
    have hdestroy := hr.destroy t
    exact ⟨h.afterOperation hdestroy, congrArg Answer.flag hdestroy.value⟩
  | purge name =>
    have hpurge := hr.removeWhere .conferenceEnded (·.conferenceName = name)
    exact ⟨h.afterOperation hpurge,
      congrArg (fun x : Registry.Removal => Answer.tokens x.tokens) hpurge.value⟩
  | sweep offset lifetime =>
    have hsweep := hr.removeWhere .expired (·.isExpired (s.now + offset) lifetime)
    simp only [Authority.runWhole, ← h.now]
    exact ⟨h.afterOperation hsweep,
      congrArg (fun x : Registry.Removal => Answer.tokens x.tokens) hsweep.value⟩
  | registryText => exact absurd rfl hcall
  | setSink sink? => exact ⟨h.setSink sink? sink?, rfl⟩

/-! ### Sections -/

/-- The record of a refusal reports no event. -/
lemma isReport_precheck {r : Registry} {q : JoinRequest} {refusal : AuthError × Log.Record}
    (h : Join.precheck r q = .error refusal) : (Notice.record refusal.2).isReport = false := by
  unfold Join.precheck Join.checkToken at h
  split at h
  · cases h
  · split at h
    · cases h
      rfl
    · split at h
      · cases h
      · cases h
        rfl

/-- A pre-check comes to the same in both. -/
lemma States.enterPrecheck (h : p.States s s') (hr : p.Registries s.registry s'.registry)
    (q : JoinRequest) (requester : PeerAddress) :
    p.Reached (a.enterPrecheck s q requester) (a.enterPrecheck s' q requester) := by
  have hprecheck : Join.precheck s.registry q = Join.precheck s'.registry q := by
    simp only [Join.precheck, Join.checkToken, hr.get?_eq]
  unfold Authority.enterPrecheck
  rw [← hprecheck]
  split
  · rename_i hrefused
    exact h.refuse _ (isReport_precheck hrefused)
  · split
    · exact ⟨h, rfl⟩
    · exact ⟨h, rfl⟩

/-- A commit comes to the same in both. -/
lemma States.enterCommitIn (h : p.States s s') (hr : p.Registries s.registry s'.registry)
    (o : SearchOrder) (i : Nat) (q : JoinRequest) (requester : PeerAddress) (g : Join.Grant) :
    p.Reached (a.enterCommitIn o i s q requester g) (a.enterCommitIn o i s' q requester g) := by
  have hcommit := hr.commit o i s.now (a.draw s.drawn) q requester g
  obtain ⟨now, r, drawn, listeners, host, trace⟩ := s
  obtain ⟨now', r', drawn', listeners', host', trace'⟩ := s'
  obtain ⟨rfl, -, rfl, rfl, rfl, huttered⟩ := h
  unfold Authority.enterCommitIn Authority.enterCommitBy
  generalize Join.commit (Join.attachIn o i now requester) r now (a.draw drawn) q requester g = c,
    Join.commit (Join.attachIn o i now requester) r' now (a.draw drawn) q requester g = c'
    at hcommit ⊢
  obtain ⟨hsessions, hresult, hdrew, hnotices⟩ := hcommit
  have hregistry : ∀ n, p.States (⟨now, c.registry, n, listeners, host, trace⟩ : State η)
      ⟨now, c'.registry, n, listeners, host, trace'⟩ := fun _ =>
    ⟨rfl, hsessions, rfl, rfl, rfl, huttered⟩
  have hcommitted := (hregistry (if c.drew then drawn + 1 else drawn)).note hnotices
  dsimp only
  rw [← hresult, ← hdrew]
  split
  · exact ⟨hcommitted, rfl⟩
  · exact ⟨hcommitted.announce a requester _, rfl⟩

/-- A section comes to the same with either outlet. -/
lemma States.enterIn (h : p.States s s') (hr : p.Registries s.registry s'.registry)
    (o : SearchOrder) (i : Nat) {pending : Section} (hpending : pending ≠ .whole .registryText) :
    p.Reached (a.enterIn o i s pending) (a.enterIn o i s' pending) := by
  cases pending with
  | whole call =>
    have hwhole := h.runWhole a hr fun hcall => hpending (congrArg Section.whole hcall)
    exact ⟨hwhole.state, congrArg Progress.answered hwhole.value⟩
  | precheck q requester => exact h.enterPrecheck a hr q requester
  | commit q requester g => exact h.enterCommitIn a hr o i q requester g

/-- A question to the verifier may follow. -/
lemma States.enterAndConsultIn (h : p.States s s') (hr : p.Registries s.registry s'.registry)
    (o : SearchOrder) (i : Nat) {pending : Section} (hpending : pending ≠ .whole .registryText)
    (registryFree : Bool) :
    p.Reached (a.enterAndConsultIn o i s pending registryFree)
      (a.enterAndConsultIn o i s' pending registryFree) := by
  have henter := h.enterIn a hr o i hpending
  unfold Authority.enterAndConsultIn Authority.consulting
  generalize a.enterIn o i s pending = reached, a.enterIn o i s' pending = reached' at henter
  obtain ⟨t, progress⟩ := reached
  obtain ⟨t', progress'⟩ := reached'
  obtain ⟨ht, rfl⟩ := henter
  cases progress with
  | verifying context => exact ⟨ht.note (.cons rfl .nil), rfl⟩
  | answered | waiting => exact ⟨ht, rfl⟩

end Calls

/-! ## Tasks -/

section Tasks

variable {s s' : State η}

/-- A hook begins in both. -/
lemma States.beginHook (h : p.States s s') (hook : Hook) :
    p.States (hook.begin s).2 (hook.begin s').2 ∧ (hook.begin s).1 = (hook.begin s').1 := by
  unfold Hook.begin
  split
  · exact ⟨h.log _ rfl, rfl⟩
  · exact ⟨h, rfl⟩

/-- A hook hears the same in both. -/
lemma States.hear (h : p.States s s') (hook : Hook) (eager : Bool) (c : Channel) :
    p.States (hook.hear eager c s).2.2 (hook.hear eager c s').2.2 ∧
      (hook.hear eager c s).1 = (hook.hear eager c s').1 ∧
      (hook.hear eager c s).2.1 = (hook.hear eager c s').2.1 := by
  unfold Hook.hear
  split
  · split
    · split
      · exact ⟨h, rfl, rfl⟩
      · exact ⟨h.log _ rfl, rfl, rfl⟩
    · exact ⟨h.log _ rfl, rfl, rfl⟩
    · exact ⟨(h.log _ rfl).log _ rfl, rfl, rfl⟩
    · exact ⟨h, rfl, rfl⟩
  · exact ⟨h, rfl, rfl⟩

/-- A hook removes the same sessions in both. -/
lemma States.purge (h : p.States s s') (hr : p.Registries s.registry s'.registry) (hook : Hook)
    (name : String) : p.States (hook.purge name s).2 (hook.purge name s').2 ∧
      (hook.purge name s).1 = (hook.purge name s').1 := by
  have hpurged := h.purgeEnded hr name
  unfold Hook.purge
  generalize Authority.purgeEnded s name = reached,
    Authority.purgeEnded s' name = reached' at hpurged
  obtain ⟨t, survives⟩ := reached
  obtain ⟨t', survives'⟩ := reached'
  obtain ⟨ht, rfl⟩ := hpurged
  cases survives <;> exact ⟨ht, rfl⟩

/-- A hook shuts down in both. -/
lemma States.shutDownHook (h : p.States s s') (hook : Hook) :
    p.States (hook.shutDown s).2 (hook.shutDown s').2 := by
  unfold Hook.shutDown
  split
  · exact h.log _ rfl
  · exact (h.log _ rfl).log _ rfl
  · exact h.log _ rfl
  · exact h

/-- A sweeper removes the same sessions in both. -/
lemma States.sweep (h : p.States s s') (hr : p.Registries s.registry s'.registry) (w : Sweeper) :
    p.States (w.sweep s).2 (w.sweep s').2 ∧ (w.sweep s).1 = (w.sweep s').1 := by
  have hsweep :
      p.Outcomes (s.registry.sweep s.now w.lifetime) (s'.registry.sweep s.now w.lifetime) :=
    hr.removeWhere .expired _
  have hswept := h.afterOperation hsweep
  unfold Sweeper.sweep
  rw [← h.now]
  dsimp only
  rw [← hsweep.value]
  split
  · split
    · split
      · exact ⟨hswept, rfl⟩
      · exact ⟨hswept.log _ rfl, rfl⟩
    · exact ⟨hswept, rfl⟩
  · exact ⟨h, rfl⟩

/-- A stop comes as far with either outlet. -/
lemma States.continueStop (h : p.States s s') (stop : Stop) :
    p.States (Service.continueStop stop s).2 (Service.continueStop stop s').2 ∧
      (Service.continueStop stop s).1 = (Service.continueStop stop s').1 := by
  cases stop with
  | sweeper w hook =>
    unfold Service.continueStop Service.awaitSweeper
    dsimp only
    rw [← h.now]
    split
    · refine ⟨h.note (.of_quiet ?_), rfl⟩
      intro n hn
      obtain ⟨record, hrecord, rfl⟩ := List.mem_map.mp hn
      unfold Sweeper.farewell at hrecord
      split at hrecord
      · rcases List.mem_cons.mp hrecord with rfl | hrecord
        · rfl
        · rw [List.mem_singleton.mp hrecord]
          rfl
      · rw [List.mem_singleton.mp hrecord]
        rfl
    · exact ⟨h, rfl⟩
  | hook hook =>
    refine ⟨?_, rfl⟩
    cases hook with
    | none => exact h.log _ rfl
    | some hook => exact (h.shutDownHook hook).log _ rfl
  | finished => exact ⟨h, rfl⟩

/-- An authority starts alike with either outlet. -/
lemma States.start (h : p.States s s') (a : Authority η) (chance : Nat → Nat)
    (source : Option Channel) (running : Option Tasks) :
    p.States (Service.start a chance source running s).2
        (Service.start a chance source running s').2 ∧
      (Service.start a chance source running s).1 =
        (Service.start a chance source running s').1 := by
  cases running with
  | some tasks => exact ⟨h.log _ rfl, rfl⟩
  | none =>
    refine ⟨h.note (.of_quiet ?_), rfl⟩
    intro n hn
    rcases List.mem_append.mp hn with hn | hn
    · obtain ⟨record, hrecord, rfl⟩ := List.mem_map.mp hn
      rcases List.mem_append.mp hrecord with hcorrection | hstarted
      · obtain ⟨correction, -, rfl⟩ := List.mem_map.mp hcorrection
        rfl
      · rw [List.mem_singleton.mp hstarted]
        rfl
    · rw [List.mem_singleton.mp hn]
      rfl

/-- A turn of a crew comes to the same with either outlet. -/
lemma States.take (h : p.States s s') (hr : p.Registries s.registry s'.registry) (eager : Bool)
    (source : Option Channel) (crew : Crew) (turn : Crew.Turn) :
    p.States (crew.take eager source s turn).2 (crew.take eager source s' turn).2 ∧
      (crew.take eager source s turn).1 = (crew.take eager source s' turn).1 := by
  cases turn with
  | tick =>
    refine ⟨h, ?_⟩
    simp only [Crew.take, h.now]
  | sweep =>
    simp only [Crew.take, Crew.sweep]
    split
    · rename_i w _
      have hsweep := h.sweep hr w
      exact ⟨hsweep.1, by rw [hsweep.2]⟩
    · exact ⟨h, rfl⟩
  | hear =>
    simp only [Crew.take, Crew.hear]
    split
    · rename_i hook channel _ _
      split
      · have hbegin := h.beginHook hook
        have hhear := hbegin.1.hear (hook.begin s).1 eager channel
        rw [← hbegin.2]
        exact ⟨hhear.1, by rw [hhear.2.1, hhear.2.2]⟩
      · exact ⟨h, rfl⟩
    · exact ⟨h, rfl⟩
  | purge =>
    simp only [Crew.take, Crew.purge]
    split
    · rename_i hook name _ _
      have hpurge := h.purge hr hook name
      exact ⟨hpurge.1, by rw [hpurge.2]⟩
    · exact ⟨h, rfl⟩
  | proceed =>
    simp only [Crew.take, Crew.proceed]
    split
    · exact ⟨h, rfl⟩
    · exact ⟨h, rfl⟩
    · rename_i stop _ _ _
      have hcontinue := h.continueStop stop
      exact ⟨hcontinue.1, by rw [hcontinue.2]⟩

end Tasks

end Pairing

end Admittance
