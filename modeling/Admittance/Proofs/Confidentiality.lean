import Admittance.Proofs.Course
import Admittance.Proofs.Origin
import Admittance.Proofs.Redaction
import Admittance.Proofs.SinkIndependence

/-!
# Credentials are the verifier's business

Take two courses of one authority in which the same happens, except that joins come in with other
credentials, and let the verifier give the same answers in both.  Nobody can tell the two apart: at
every act the registries hold the same sessions, all calls have come as far and have the same
answers, sinks take the same events, listeners are told the same and the log is the same, record by
record (`Course.confidential`).  What differs is what the verifier is shown, and there the
credentials only.

The proof compares neither course with the other.  A course that is redacted before it runs comes to
what is left of it if it is redacted afterwards (`Course.beforeIn_redacted`), for redaction commutes
with every act; two courses that differ in credentials only are one and the same course when they
are redacted.

A join with a valid token that is trusted never gets to a verifier at all.  A call only ever goes on
to a later *stage* (`Course.stage_le`), and the verifier's stage comes before the commit's.
-/

namespace Admittance

variable {η : Type}

/-! ## Courses without credentials -/

/-- The act without credentials. -/
def Act.redacted : Act → Act
  | .request m => .request m.redacted
  | act => act

namespace Deployment

variable (d : Deployment η)

/-- The deployment without credentials. -/
def redacted : Deployment η := { d with world := d.world.redacted }

/-- The deployment in which the registry is searched as at moment `i`. -/
def arranged (o : SearchOrder) (i : Nat) : Deployment η := { d with world := d.world.arranged o i }

/-- Redaction commutes with every act. -/
lemma redacted_stepIn (o : SearchOrder) (i : Nat) (a : Authority η) (act : Act) :
    d.redacted.stepIn o i a act.redacted = (d.stepIn o i a act).redacted := by
  cases act with
  | request m =>
    have hbackground : m.redacted.isBackground = m.isBackground := by cases m <;> rfl
    simp only [Act.redacted, stepIn, hbackground]
    split
    · rfl
    · rename_i hm
      have hstep := d.world.redacted_stepIn o i a (Bool.not_eq_true _ ▸ hm)
      exact congrArg (fun w => (⟨w, d.source, d.crews⟩ : Deployment η)) hstep
  | announce name elsewhere =>
    have hclosed : d.redacted.isClosed = d.isClosed := rfl
    have hreceivers : d.redacted.receivers = d.receivers := rfl
    simp only [Act.redacted, stepIn, step, hclosed, hreceivers]
    split
    · rfl
    · rfl
  | close => rfl
  | start chance =>
    -- Neither tasks nor the source hold credentials.
    have htasks : d.redacted.tasks? = d.tasks? := rfl
    have hstart := Service.redacted_start d.world.state a chance d.source d.tasks?
    have hstarted : Service.start a chance d.redacted.source d.tasks? d.redacted.world.state =
        Prod.map id State.redacted (Service.start a chance d.source d.tasks? d.world.state) :=
      hstart
    simp only [Act.redacted, stepIn, step, htasks, hstarted]
    generalize Service.start a chance d.source d.tasks? d.world.state = started
    obtain ⟨tasks, s⟩ := started
    dsimp only [Prod.map, id]
    split
    · rfl
    · rfl
  | stop =>
    have htasks : d.redacted.tasks? = d.tasks? := rfl
    simp only [Act.redacted, stepIn, step, htasks]
    split
    · rfl
    · rfl
  | task n turn =>
    have hcrews : d.redacted.crews = d.crews := rfl
    simp only [Act.redacted, stepIn, step, hcrews]
    split
    · rfl
    · rename_i crew _
      have htake : crew.take a.config.destroyOnConferenceEnd d.redacted.source
            d.redacted.world.state turn =
          Prod.map id State.redacted
            (crew.take a.config.destroyOnConferenceEnd d.source d.world.state turn) :=
        crew.redacted_take d.world.state a.config.destroyOnConferenceEnd d.source turn
      rw [htake]
      rfl

/-- An act may be redacted before it happens, or what it leaves afterwards. -/
lemma redacted_afterIn (o : SearchOrder) (i : Nat) (a : Authority η) (act : Option Act) :
    d.redacted.afterIn o i a (act.map Act.redacted) = (d.afterIn o i a act).redacted := by
  cases act with
  | none => rfl
  | some act => exact d.redacted_stepIn o i a act

end Deployment

namespace Course

/-- The deployment that act `k` finds if every search of the registry is in an order of its own. -/
def beforeIn (c : Course η) (o : SearchOrder) : Nat → Deployment η
  | 0 => (Deployment.idle c.start c.source).arranged o 0
  | k + 1 =>
    ((c.beforeIn o k).afterIn o (2 * k + 1) c.authority c.acts[k]?).arranged o (2 * (k + 1))

/-- Sessions that come up in the order of their creation make no difference. -/
theorem beforeIn_byCreation (c : Course η) (k : Nat) : c.beforeIn .byCreation k = c.before k := by
  induction k with
  | zero => rfl
  | succ k ih =>
    rw [beforeIn, before, ih, Deployment.afterIn_byCreation]
    rfl

/-- The course in which all joins come in without credentials. -/
def redacted (c : Course η) : Course η :=
  { c with start := c.start.redacted, acts := c.acts.map Act.redacted }

/-- **What is left of a course is what comes of the rest of it.** -/
theorem beforeIn_redacted (c : Course η) (o : SearchOrder) (k : Nat) :
    c.redacted.beforeIn o k = (c.beforeIn o k).redacted := by
  induction k with
  | zero => rfl
  | succ k ih =>
    have hact : c.redacted.acts[k]? = c.acts[k]?.map Act.redacted := List.getElem?_map
    have hafter := (c.beforeIn o k).redacted_afterIn o (2 * k + 1) c.authority c.acts[k]?
    rw [beforeIn, ih, hact]
    exact congrArg (fun d => d.arranged o (2 * (k + 1))) hafter

end Course

/-! ## Courses that differ in credentials -/

/-- The acts are the same, or a join arrives with other credentials. -/
inductive Act.Counterpart : Act → Act → Prop
  | same (act : Act) : Counterpart act act
  | join (n : Nat) (q : JoinRequest) (requester : PeerAddress) (credentials : TextMap) :
      Counterpart (.request (.arrive n (.join q requester)))
        (.request (.arrive n (.join { q with credentials := credentials } requester)))

/-- Acts that differ in credentials only are the same once they are redacted. -/
lemma Act.Counterpart.redacted_eq {act act' : Act} (h : act.Counterpart act') :
    act.redacted = act'.redacted := by
  cases h with
  | same => rfl
  | join => rfl

namespace Course

/-- The courses differ in the credentials of joins only; in particular the verifier gives the same
answers. -/
structure Counterpart (c c' : Course η) : Prop where
  authority : c'.authority = c.authority
  start : c'.start = c.start
  source : c'.source = c.source
  acts : List.Forall₂ Act.Counterpart c.acts c'.acts

/-- Courses that differ in credentials only are the same once they are redacted. -/
lemma Counterpart.redacted_eq {c c' : Course η} (h : c.Counterpart c') :
    c.redacted = c'.redacted := by
  have hredacted : ∀ acts acts', List.Forall₂ Act.Counterpart acts acts' →
      acts.map Act.redacted = acts'.map Act.redacted := by
    intro acts acts' hacts
    induction hacts with
    | nil => rfl
    | cons hact _ ih => rw [List.map_cons, List.map_cons, hact.redacted_eq, ih]
  rw [redacted, redacted, h.authority, h.start, h.source, hredacted _ _ h.acts]

/-- Nobody can tell the courses apart, as act `k` finds them. -/
structure Indistinguishable (c c' : Course η) (o : SearchOrder) (k : Nat) : Prop where
  now : (c'.beforeIn o k).now = (c.beforeIn o k).now
  registry : (c'.beforeIn o k).registry = (c.beforeIn o k).registry
  drawn : (c'.beforeIn o k).world.state.drawn = (c.beforeIn o k).world.state.drawn
  listeners : (c'.beforeIn o k).world.state.listeners = (c.beforeIn o k).world.state.listeners
  host : (c'.beforeIn o k).world.state.host = (c.beforeIn o k).world.state.host
  source : (c'.beforeIn o k).source = (c.beforeIn o k).source
  /-- The tasks have come as far; the authority runs or does not. -/
  crews : (c'.beforeIn o k).crews = (c.beforeIn o k).crews
  /-- Every call has the same answer, or none in both. -/
  answer : ∀ n, (c'.beforeIn o k).world.answer? n = (c.beforeIn o k).world.answer? n
  /-- Every call has come as far, and waits for the same but for credentials. -/
  flight : ∀ n, ((c'.beforeIn o k).world.flight n).map Flight.redacted =
    ((c.beforeIn o k).world.flight n).map Flight.redacted
  /-- Events, the log, and what listeners are told and ask for are the same, at the same moments and
  in the same order. -/
  spoken : (c'.beforeIn o k).world.state.spoken = (c.beforeIn o k).world.state.spoken
  /-- The verifier is asked at the same moments, of the same but for credentials. -/
  asked : (c'.beforeIn o k).world.state.questions.map (fun e => (e.1, e.2.redacted)) =
    (c.beforeIn o k).world.state.questions.map fun e => (e.1, e.2.redacted)

/-- Courses that are the same without credentials are told apart by credentials only. -/
lemma indistinguishable_of_redacted_eq {c c' : Course η} (h : c.redacted = c'.redacted)
    (o : SearchOrder) (k : Nat) : c.Indistinguishable c' o k := by
  have hsame : (c'.beforeIn o k).redacted = (c.beforeIn o k).redacted := by
    rw [← beforeIn_redacted, ← beforeIn_redacted, h]
  have hstate : (c'.beforeIn o k).world.state.redacted = (c.beforeIn o k).world.state.redacted :=
    congrArg (fun d => d.world.state) hsame
  have hflight : ∀ n, ((c'.beforeIn o k).world.flight n).map Flight.redacted =
      ((c.beforeIn o k).world.flight n).map Flight.redacted :=
    fun n => congrArg (fun d => d.world.flight n) hsame
  have hanswer : ∀ f : Option Flight, f.bind Flight.answer? =
      (f.map Flight.redacted).bind Flight.answer? := by
    intro f
    cases f with
    | none => rfl
    | some f => exact f.answer?_redacted.symm
  constructor
  case now => exact (congrArg State.now hstate :)
  case registry => exact (congrArg State.registry hstate :)
  case drawn => exact (congrArg State.drawn hstate :)
  case listeners => exact (congrArg State.listeners hstate :)
  case host => exact (congrArg State.host hstate :)
  case source => exact (congrArg Deployment.source hsame :)
  case crews => exact (congrArg Deployment.crews hsame :)
  case answer =>
    intro n
    rw [World.answer?, World.answer?, hanswer, hflight n, ← hanswer]
  case flight => exact hflight
  case spoken => rw [← State.spoken_redacted, hstate, State.spoken_redacted]
  case asked => rw [← State.questions_redacted, hstate, State.questions_redacted]

end Course

/-! ## Calls go forward -/

/-- The stage of a call: before its first section, at the verifier, before its commit, over. -/
def Flight.stage (f : Flight) : Nat :=
  match f.progress with
  | some (.waiting (.commit ..)) => 2
  | some (.waiting _) => 0
  | some (.verifying _) => 1
  | some (.answered _) | none => 3

namespace Authority

variable (a : Authority η) (s : State η) (o : SearchOrder) (i : Nat)

/-- A commit is all that comes of its section. -/
lemma enterAndConsultIn_commit (q : JoinRequest) (requester : PeerAddress) (g : Join.Grant)
    (registryFree : Bool) : a.enterAndConsultIn o i s (.commit q requester g) registryFree =
      a.enterCommitIn o i s q requester g := by
  have hanswered : ∃ s' result, a.enterCommitIn o i s q requester g =
      (s', .answered (.join result)) := by
    unfold enterCommitIn enterCommitBy
    dsimp only
    split
    · exact ⟨_, _, rfl⟩
    · exact ⟨_, _, rfl⟩
  obtain ⟨s', result, hcommit⟩ := hanswered
  simp only [enterAndConsultIn, consulting, enterIn, hcommit]

/-- Every section takes a call to a later stage. -/
lemma stage_lt_enterAndConsultIn (call : Call) (pending : Section) (registryFree : Bool) :
    (⟨call, some (.waiting pending)⟩ : Flight).stage <
      (⟨call, some (a.enterAndConsultIn o i s pending registryFree).2⟩ : Flight).stage := by
  cases pending with
  | whole whole =>
    show 0 < 3
    omega
  | precheck q requester =>
    simp only [enterAndConsultIn, consulting, enterIn, enter]
    rcases a.enterPrecheck_progress s q requester with
      ⟨e, -, h⟩ | ⟨presented, -, ⟨g, -, h⟩ | ⟨-, h⟩⟩
    · rw [h]
      show 0 < 3
      omega
    · rw [h]
      show 0 < 2
      omega
    · rw [h]
      show 0 < 1
      omega
  | commit q requester g =>
    rw [enterAndConsultIn_commit]
    unfold enterCommitIn enterCommitBy
    dsimp only
    split
    · show 2 < 3
      omega
    · show 2 < 3
      omega

end Authority

namespace World

variable {w : World η} {n : Nat} {f : Flight}

/-- A call that comes further gets to a later stage. -/
lemma Advance.stage_le {a : Authority η} {m : Move} {f' : Flight} (h : w.flight n = some f)
    (hadvance : w.Advance a n m f') : f.stage ≤ f'.stage := by
  cases hadvance with
  | arrived call before =>
    rw [before] at h
    cases h
  | entered registryFree call pending before =>
    obtain rfl := Option.some.inj (h.symm.trans before)
    have hlt := a.stage_lt_enterAndConsultIn w.state .byCreation 0 call pending registryFree
    simp only [Authority.enterAndConsultIn, Authority.enterIn_byCreation] at hlt
    exact Nat.le_of_lt hlt
  | answered verdict call context before =>
    obtain rfl := Option.some.inj (h.symm.trans before)
    rcases Authority.conclude_progress w.state context verdict with ⟨e, -, hp⟩ | ⟨g, -, hp⟩
    · rw [hp]
      show 1 ≤ 3
      omega
    · rw [hp]
      show 1 ≤ 2
      omega
  | abandoned call progress before =>
    show f.stage ≤ 3
    unfold Flight.stage
    split <;> omega

/-- A move takes no call back to an earlier stage. -/
lemma stage_le_stepIn (h : w.flight n = some f) (o : SearchOrder) (i : Nat) (a : Authority η)
    (m : Move) : ∃ f', (w.stepIn o i a m).flight n = some f' ∧ f.stage ≤ f'.stage := by
  have hstep : ∃ f', (w.step a m).flight n = some f' ∧ f.stage ≤ f'.stage := by
    rcases w.flight_step a m n with hsame | ⟨f', hf', hadvance⟩
    · exact ⟨f, hsame.trans h, Nat.le_refl _⟩
    · exact ⟨f', hf', hadvance.stage_le h⟩
  cases m with
  | enter j registryFree =>
    unfold stepIn
    dsimp only
    split
    · rename_i call pending hflight
      by_cases hn : n = j
      · subst hn
        obtain rfl := Option.some.inj (h.symm.trans hflight)
        refine ⟨_, by rw [flight_put, if_pos rfl], Nat.le_of_lt ?_⟩
        exact a.stage_lt_enterAndConsultIn w.state o i call pending registryFree
      · exact ⟨f, by rw [flight_put, if_neg hn, h], Nat.le_refl _⟩
    · exact ⟨f, h, Nat.le_refl _⟩
  | arrive | answer | abandon | wait | sweep | receive | relist => exact hstep

end World

namespace Deployment

variable {d : Deployment η} {n : Nat} {f : Flight}

/-- Neither does any other act. -/
lemma stage_le_stepIn (h : d.world.flight n = some f) (o : SearchOrder) (i : Nat) (a : Authority η)
    (act : Act) : ∃ f', (d.stepIn o i a act).world.flight n = some f' ∧ f.stage ≤ f'.stage := by
  have hstep : (∀ m, act ≠ .request m) → (d.step a act).world.flight = d.world.flight := by
    intro hact
    have hleaves := d.leaves_after a (some act)
    show (d.after a (some act)).world.flight = _
    generalize d.after a (some act) = d' at hleaves ⊢
    cases hleaves with
    | requested m => exact absurd rfl (hact m)
    | nothing | announced | unheard | closed | found | started | taken | turned => rfl
  cases act with
  | request m =>
    simp only [stepIn]
    split
    · exact ⟨f, h, Nat.le_refl _⟩
    · exact World.stage_le_stepIn h o i a m
  | announce | close | start | stop | task =>
    exact ⟨f, (congrFun (hstep fun m => by simp) n).trans h, Nat.le_refl _⟩

end Deployment

namespace Course

variable {c : Course η} {o : SearchOrder} {n : Nat}

/-- **A call never goes back to an earlier stage.** -/
theorem stage_le {j k : Nat} (hjk : j ≤ k) {f : Flight}
    (h : (c.beforeIn o j).world.flight n = some f) :
    ∃ f', (c.beforeIn o k).world.flight n = some f' ∧ f.stage ≤ f'.stage := by
  induction k, hjk using Nat.le_induction with
  | base => exact ⟨f, h, Nat.le_refl _⟩
  | succ k _ ih =>
    obtain ⟨f', hf', hle⟩ := ih
    have hnext : ∃ f'', ((c.beforeIn o k).afterIn o (2 * k + 1) c.authority
        c.acts[k]?).world.flight n = some f'' ∧ f'.stage ≤ f''.stage := by
      cases c.acts[k]? with
      | none => exact ⟨f', hf', Nat.le_refl _⟩
      | some act => exact Deployment.stage_le_stepIn hf' o _ c.authority act
    obtain ⟨f'', hf'', hle'⟩ := hnext
    exact ⟨f'', hf'', Nat.le_trans hle hle'⟩

/-! ## Trust -/

/-- Act `k` is the pre-check of a join that presents a valid token, and the authority trusts
those. -/
structure Trusts (c : Course η) (o : SearchOrder) (k n : Nat) (q : JoinRequest)
    (requester : PeerAddress) (t : SessionToken) : Prop where
  policy : c.authority.verifier.policy = .trustToken
  act : ∃ registryFree, c.acts[k]? = some (.request (.enter n registryFree))
  waits : (c.beforeIn o k).world.flight n =
    some ⟨.join q requester, some (.waiting (.precheck q requester))⟩
  presents : q.presentedToken = some t
  valid : ∃ x, (c.beforeIn o k).registry.get? t = some x ∧ x.machineId = q.machineId

/-- The join gets to its commit without a verifier. -/
structure Unverified (c : Course η) (o : SearchOrder) (k n : Nat) (q : JoinRequest)
    (requester : PeerAddress) (t : SessionToken) : Prop where
  /-- It waits for its commit next, and nothing has been seen. -/
  commits : (c.beforeIn o (k + 1)).world.flight n =
    some ⟨.join q requester, some (.waiting (.commit q requester (.reuse t)))⟩
  unseen : (c.beforeIn o (k + 1)).world.state.trace = (c.beforeIn o k).world.state.trace
  /-- It never waits for a verifier. -/
  never_verifying : ∀ j call context,
    (c.beforeIn o j).world.flight n ≠ some ⟨call, some (.verifying context)⟩
  /-- None of its sections has a verifier asked. -/
  never_asked : ∀ j registryFree, c.acts[j]? = some (.request (.enter n registryFree)) →
    Unasked (c.beforeIn o j).world.state (c.beforeIn o (j + 1)).world.state

/-- What a call does that gets the registry. -/
lemma beforeIn_succ_of_enter {k : Nat} {registryFree : Bool}
    (hact : c.acts[k]? = some (.request (.enter n registryFree))) :
    (c.beforeIn o (k + 1)).world = ((c.beforeIn o k).world.stepIn o (2 * k + 1) c.authority
      (.enter n registryFree)).arranged o (2 * (k + 1)) := by
  rw [beforeIn, hact]
  rfl

/-- A valid token that is trusted takes a join to its commit. -/
lemma Trusts.next {k : Nat} {q : JoinRequest} {requester : PeerAddress} {t : SessionToken}
    (h : c.Trusts o k n q requester t) :
    (c.beforeIn o (k + 1)).world.flight n =
        some ⟨.join q requester, some (.waiting (.commit q requester (.reuse t)))⟩ ∧
      (c.beforeIn o (k + 1)).world.state.trace = (c.beforeIn o k).world.state.trace := by
  obtain ⟨registryFree, hact⟩ := h.act
  obtain ⟨x, hx, hmachine⟩ := h.valid
  have htoken : x.token = t := (Registry.get?_eq_some hx).2
  have hchecked : Join.precheck (c.beforeIn o k).registry q = .ok (some x) := by
    simp only [Join.precheck, Join.checkToken, h.presents, hx, if_pos hmachine]
    rfl
  have hentered : c.authority.enterAndConsultIn o (2 * k + 1) (c.beforeIn o k).world.state
      (.precheck q requester) registryFree =
        ((c.beforeIn o k).world.state, .waiting (.commit q requester (.reuse t))) := by
    have hprecheck : c.authority.enterPrecheck (c.beforeIn o k).world.state q requester =
        ((c.beforeIn o k).world.state, .waiting (.commit q requester (.reuse t))) := by
      unfold Authority.enterPrecheck
      rw [show Join.precheck (c.beforeIn o k).world.state.registry q = .ok (some x) from hchecked]
      simp only [Join.trusted, h.policy, htoken]
    simp only [Authority.enterAndConsultIn, Authority.consulting, Authority.enterIn,
      Authority.enter, hprecheck]
  rw [beforeIn_succ_of_enter hact]
  simp only [World.stepIn, h.waits, hentered]
  constructor
  · exact (World.flight_put ..).trans (if_pos rfl)
  · rfl

/-- A call that gets the registry gets to a later stage. -/
lemma stage_lt_of_enter {k : Nat} {registryFree : Bool}
    (hact : c.acts[k]? = some (.request (.enter n registryFree))) {call : Call} {pending : Section}
    (h : (c.beforeIn o k).world.flight n = some ⟨call, some (.waiting pending)⟩) :
    ∃ f, (c.beforeIn o (k + 1)).world.flight n = some f ∧
      (⟨call, some (.waiting pending)⟩ : Flight).stage < f.stage := by
  rw [beforeIn_succ_of_enter hact]
  simp only [World.stepIn, h]
  refine ⟨_, (World.flight_put ..).trans (if_pos rfl), ?_⟩
  exact c.authority.stage_lt_enterAndConsultIn _ o _ call pending registryFree

/-- A section behind the verifier's stage has no verifier asked. -/
lemma unasked_of_enter {k : Nat} {registryFree : Bool}
    (hact : c.acts[k]? = some (.request (.enter n registryFree)))
    (hlate : ∀ call pending,
      (c.beforeIn o k).world.flight n = some ⟨call, some (.waiting pending)⟩ →
        1 < (⟨call, some (.waiting pending)⟩ : Flight).stage) :
    Unasked (c.beforeIn o k).world.state (c.beforeIn o (k + 1)).world.state := by
  rw [beforeIn_succ_of_enter hact]
  show Unasked _ ((c.beforeIn o k).world.stepIn o (2 * k + 1) c.authority
    (.enter n registryFree)).state
  unfold World.stepIn
  dsimp only
  split
  · rename_i call pending hflight
    have hstage := hlate call pending hflight
    cases pending with
    | whole | precheck => exact absurd hstage (Nat.not_lt_zero 1)
    | commit q requester g =>
      rw [Authority.enterAndConsultIn_commit]
      exact .commit c.authority (c.beforeIn o k).world.state o (2 * k + 1) q requester g
  · exact .refl _

/-- **Who is trusted is not verified.** -/
theorem Trusts.unverified {k : Nat} {q : JoinRequest} {requester : PeerAddress} {t : SessionToken}
    (h : c.Trusts o k n q requester t) : c.Unverified o k n q requester t := by
  obtain ⟨hnext, htrace⟩ := h.next
  have hearly : ∀ j f, j ≤ k → (c.beforeIn o j).world.flight n = some f → f.stage = 0 := by
    intro j f hjk hf
    obtain ⟨f', hf', hle⟩ := stage_le hjk hf
    obtain rfl := Option.some.inj (h.waits.symm.trans hf')
    exact Nat.le_zero.mp hle
  have hlate : ∀ j f, k < j → (c.beforeIn o j).world.flight n = some f → 2 ≤ f.stage := by
    intro j f hkj hf
    obtain ⟨f', hf', hle⟩ := stage_le (Nat.succ_le_of_lt hkj) hnext
    obtain rfl := Option.some.inj (hf.symm.trans hf')
    exact hle
  constructor
  case commits => exact hnext
  case unseen => exact htrace
  case never_verifying =>
    intro j call context hflight
    by_cases hjk : j ≤ k
    · exact absurd (hearly j _ hjk hflight) Nat.one_ne_zero
    · exact absurd (hlate j _ (Nat.lt_of_not_le hjk) hflight) (Nat.not_succ_le_self 1)
  case never_asked =>
    intro j registryFree hact
    by_cases hjk : j = k
    · subst hjk
      exact ⟨[], by rw [htrace, List.append_nil], by simp⟩
    · refine unasked_of_enter hact fun call pending hflight => ?_
      by_cases hlt : j < k
      · -- The call would be past its pre-check at act `k`.
        obtain ⟨f, hf, hstage⟩ := stage_lt_of_enter hact hflight
        have hzero := hearly (j + 1) f hlt hf
        omega
      · exact hlate j _ (by omega) hflight

/-! ## Confidentiality -/

/-- Credentials of joins come to nothing but the verifier's answers. -/
structure Confidential (c c' : Course η) (o : SearchOrder) : Prop where
  /-- With the same answers nobody can tell the courses apart. -/
  indistinguishable : ∀ k, c.Indistinguishable c' o k
  /-- A join whose valid token is trusted has no verifier asked, whatever credentials it comes
  with. -/
  trusted : ∀ {k n : Nat} {q : JoinRequest} {requester : PeerAddress} {t : SessionToken},
    c.Trusts o k n q requester t → c.Unverified o k n q requester t

/-- **Credentials flow only through the verifier's answers.** -/
theorem confidential {c c' : Course η} (h : c.Counterpart c') (o : SearchOrder) :
    c.Confidential c' o := by
  constructor
  case indistinguishable => exact indistinguishable_of_redacted_eq h.redacted_eq o
  case trusted => exact Trusts.unverified

/-- A device joins with one password, and joins again with its token and another one. -/
def returning (first second : String) : Course Unit where
  authority := .sample .trustToken
  start := .initial 0 (some ⟨"log", false⟩) ()
  source := none
  acts := [
    .request (.arrive 0
      (.join ((JoinRequest.plain "desk" "room").withCredential "password" first) ⟨"a"⟩)),
    .request (.enter 0 true), .request (.answer 0 (.ok (.plain "ann"))), .request (.enter 0 true),
    .request (.arrive 1 (.join (((JoinRequest.plain "desk" "room").withToken
      (.ofNumber 0)).withCredential "password" second) ⟨"b"⟩)),
    .request (.enter 1 true), .request (.enter 1 true)]

/-- Whatever the two passwords are, the device gets the same session twice, and the second one is
shown to nobody. -/
theorem returning_confidential :
    (returning "secret" "guess").Counterpart (returning "other" "") ∧
      (returning "secret" "guess").Trusts .alternating 5 1
        (((JoinRequest.plain "desk" "room").withToken (.ofNumber 0)).withCredential
          "password" "guess") ⟨"b"⟩ (.ofNumber 0) ∧
      ((returning "secret" "guess").beforeIn .alternating 7).world.answer? 1 =
        some (.join (.ok ⟨"ann", .ofNumber 0⟩)) ∧
      (returning "secret" "guess").Confidential (returning "other" "") .alternating := by
  have hcounterpart : (returning "secret" "guess").Counterpart (returning "other" "") :=
    ⟨rfl, rfl, rfl, .cons (.join 0 _ _ _) (.cons (.same _) (.cons (.same _) (.cons (.same _)
      (.cons (.join 1 _ _ _) (.cons (.same _) (.cons (.same _) .nil))))))⟩
  have htrusts : (returning "secret" "guess").Trusts .alternating 5 1
      (((JoinRequest.plain "desk" "room").withToken (.ofNumber 0)).withCredential
        "password" "guess") ⟨"b"⟩ (.ofNumber 0) :=
    ⟨rfl, ⟨true, rfl⟩, by rfl, by decide, _, by rfl, by rfl⟩
  exact ⟨hcounterpart, htrusts, by rfl, confidential hcounterpart .alternating⟩

end Course

end Admittance
