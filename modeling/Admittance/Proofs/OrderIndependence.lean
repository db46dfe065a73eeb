import Admittance.Proofs.Alike
import Admittance.Proofs.Searches

/-!
# The order of a search is of no consequence

Whoever searches the registry may come across its sessions in any order, and in another one every
time.  A registry that is changed only through its authority has one session at most for a device
and for a connection (`Run.Guarded.definite`), so every search has one result in all orders.  Hence
two runs that differ in these orders only stay alike, move by move (`World.Alike.stepIn`): all calls
get the same answers, the listeners are told the same, and the registries hold the same sessions
(`Run.orderIndependent`).  Only the sessions that one sweep or one purge removes are removed, and
told of, in the order in which they came up.

The induction needs uniqueness before each move, and uniqueness is known of the world in which the
sessions come up in the order of their creation.  So each order is compared with that one first, and
then two orders with each other.

One thing does depend on the order: a sink that breaks down while several sessions are to be
removed.  `Run.Uncut` leaves it out.
-/

namespace Admittance

variable {η : Type}

/-! ## Joins -/

namespace Join

variable {r r' : Registry}

/-- Coming by a session has led to the same, except for the order of the sessions. -/
inductive SeatsAlike :
    Except (AuthError × Log.Record) Seat → Except (AuthError × Log.Record) Seat → Prop
  | refused (refusal : AuthError × Log.Record) : SeatsAlike (.error refusal) (.error refusal)
  | seated {q q' : Registry} (registry : q.Alike q')
      (connection : ∀ peer, q.Unique fun x => x.peer = some peer) (token : SessionToken)
      (drew : Bool) (notices : List Notice) :
      SeatsAlike (.ok ⟨q, token, drew, notices⟩) (.ok ⟨q', token, drew, notices⟩)

/-- A new session has no connection. -/
lemma unique_connection_create (hdefinite : r.Definite) (now : Instant) (d : Drawing)
    (machineId identity conferenceName : String) (properties : TextMap) (peer : PeerAddress) :
    (r.create now d machineId identity conferenceName properties).registry.Unique
      fun x => x.peer = some peer := by
  have hold : ∀ x ∈ (r.create now d machineId identity conferenceName properties).registry.sessions,
      x.peer = some peer → x ∈ r.sessions := by
    intro x hx hpeer
    simp only [Registry.create, Registry.add, List.mem_append, List.mem_singleton] at hx
    rcases hx with hx | rfl
    · exact hx
    · simp [Session.opened] at hpeer
  intro x hx y hy hxp hyp
  exact hdefinite.connection peer x (hold x hx (of_decide_eq_true hxp)) y
    (hold y hy (of_decide_eq_true hyp)) hxp hyp

/-- A commit finds or opens one session in registries that are alike. -/
lemma seat_alike (h : r.Alike r') (hdefinite : r.Definite) (now : Instant) (d : Drawing)
    (q : JoinRequest) (g : Grant) : SeatsAlike (seat r now d q g) (seat r' now d q g) := by
  cases g with
  | reuse t =>
    simp only [seat, ← h.get?_eq t]
    split
    · exact .refused _
    · exact .seated h hdefinite.connection _ _ _
  | verified v =>
    simp only [seat, ← h.findByIdentity?_eq hdefinite]
    split
    · exact .seated h hdefinite.connection _ _ _
    · have hcreate := h.create now d q.machineId v.identity q.conferenceName v.properties
      rw [← hcreate.value, ← hcreate.notices]
      exact .seated hcreate.registry
        (fun peer => unique_connection_create hdefinite _ _ _ _ _ _ peer) _ _ _

/-- The commits have led to the same, except for the order of the sessions. -/
structure Commit.Alike (c c' : Commit) : Prop where
  registry : c.registry.Alike c'.registry
  result : c.result = c'.result
  drew : c.drew = c'.drew
  notices : c.notices = c'.notices

/-- A commit comes to the same in alike registries, in whatever orders it searches. -/
lemma commit_alike (h : r.Alike r') (hdefinite : r.Definite) (o o' : SearchOrder) (i : Nat)
    (now : Instant) (d : Drawing) (q : JoinRequest) (requester : PeerAddress) (g : Grant) :
    (commit (attachIn o i now requester) r now d q requester g).Alike
      (commit (attachIn o' i now requester) r' now d q requester g) := by
  have hseats := seat_alike h hdefinite now d q g
  unfold commit
  generalize seat r now d q g = reached, seat r' now d q g = reached' at hseats
  cases hseats with
  | refused refusal => exact ⟨h, rfl, rfl, rfl⟩
  | seated registry connection token drew notices =>
    have hattach :=
      (registry.arranged o o' i).attach ((connection requester).arranged o i) now token
    dsimp only [attachIn]
    rw [← hattach.value, ← hattach.notices]
    split
    · exact ⟨hattach.registry, rfl, rfl, rfl⟩
    · exact ⟨hattach.registry, rfl, rfl, rfl⟩

end Join

/-! ## Sections -/

/-- What has been reached is the same, except for the order in which sessions come up and are
removed. -/
structure State.AlikeWith {β : Type} (reached reached' : State η × β) : Prop where
  state : reached.1.Alike reached'.1
  value : reached.2 = reached'.2

namespace Authority

variable (a : Authority η) (o o' : SearchOrder) (i : Nat) {s s' : State η}

/-- Listeners are told the same. -/
lemma announce_alike (h : s.Alike s') (requester : PeerAddress) (x : Session) :
    (a.announce s requester x).Alike (a.announce s' requester x) := by
  unfold announce
  rw [h.host, h.listeners]
  refine State.Alike.note ?_ _
  exact ⟨h.now, h.registry, h.drawn, rfl, rfl, h.trace⟩

/-- A refusal is the same. -/
lemma refuse_alike (h : s.Alike s') (refusal : AuthError × Log.Record) :
    State.AlikeWith (refuse s refusal) (refuse s' refusal) :=
  ⟨h.log _, rfl⟩

/-- A call comes as far on its arrival. -/
lemma arrive_alike (h : s.Alike s') (call : Call) :
    State.AlikeWith (a.arrive s call) (a.arrive s' call) := by
  unfold arrive
  split
  · split
    · exact refuse_alike h _
    · exact ⟨h, rfl⟩
  · split
    · exact ⟨h, rfl⟩
    · exact ⟨h.log _, rfl⟩
  · exact ⟨h, rfl⟩

/-- The verifier's answer has the same consequence. -/
lemma conclude_alike (h : s.Alike s') (context : VerifyContext) (verdict : Verdict) :
    State.AlikeWith (conclude s context verdict) (conclude s' context verdict) := by
  unfold conclude
  split
  · exact refuse_alike h _
  · exact ⟨h, rfl⟩

/-- A logout comes to the same, for a token has one session. -/
lemma logout_alike (h : s.Alike s') (t : SessionToken) :
    State.AlikeWith (a.logout s t) (a.logout s' t) := by
  unfold logout
  rw [← h.registry.get?_eq t]
  split
  · exact ⟨h, rfl⟩
  · exact ⟨h.afterOperation (h.registry.destroy t), rfl⟩

/-- The end of a conference takes the same sessions, unless a sink breaks down between them. -/
lemma purgeEnded_alike (h : s.Alike s') {name : String}
    (hone : s.registry.sinkIsFragile = true → s.registry.Unique (·.conferenceName = name)) :
    State.AlikeWith (purgeEnded s name) (purgeEnded s' name) := by
  have hremoved := h.registry.removeWhere .conferenceEnded hone
  have hstates := h.afterRemoval hremoved
  unfold purgeEnded Registry.purge
  dsimp only
  rw [← hremoved.completed, ← hremoved.tokens.length_eq]
  split
  · exact ⟨hstates.log _, rfl⟩
  · exact ⟨hstates, rfl⟩

/-- A call that is done in one section comes to the same. -/
lemma runWhole_alike (h : s.Alike s') (hdefinite : s.registry.Definite) {call : Call}
    (hguarded : call.isDirect = false)
    (hone : ∀ name, call = .conferenceEnded name → s.registry.sinkIsFragile = true →
      s.registry.Unique (·.conferenceName = name)) :
    State.AlikeWith (a.runWhole s call) (a.runWhole s' call) := by
  have hr := h.registry
  cases call with
  | join q requester => exact ⟨h, rfl⟩
  | logout t =>
    have hlogout := a.logout_alike h t
    exact ⟨hlogout.state, congrArg Answer.logout hlogout.value⟩
  | lookup peer => exact ⟨h, by simp only [runWhole, hr.findByPeer?_eq hdefinite]⟩
  | conferenceEnded name => exact ⟨(purgeEnded_alike h (hone name rfl)).state, rfl⟩
  | session t => exact ⟨h, by simp only [runWhole, hr.get?_eq]⟩
  | sessionText t => exact ⟨h, by simp only [runWhole, hr.get?_eq]⟩
  | sessionCount => exact ⟨h, by simp only [runWhole, hr.size_eq]⟩
  | findByIdentity machineId identity =>
    exact ⟨h, by simp only [runWhole, hr.ofIdentity_eq hdefinite]⟩
  | findByPeer peer => exact ⟨h, by simp only [runWhole, hr.findByPeer?_eq hdefinite]⟩
  | registryText => exact ⟨h, by simp only [runWhole, hr.text_eq]⟩
  | create | attach | destroy | purge | sweep | setSink => simp [Call.isDirect] at hguarded

/-- A pre-check comes to the same, for a token has one session. -/
lemma enterPrecheck_alike (h : s.Alike s') (q : JoinRequest) (requester : PeerAddress) :
    State.AlikeWith (a.enterPrecheck s q requester) (a.enterPrecheck s' q requester) := by
  have hprecheck : Join.precheck s.registry q = Join.precheck s'.registry q := by
    simp only [Join.precheck, Join.checkToken, h.registry.get?_eq]
  unfold enterPrecheck
  rw [← hprecheck]
  split
  · exact refuse_alike h _
  · split
    · exact ⟨h, rfl⟩
    · exact ⟨h, rfl⟩

/-- A commit comes to the same, although it searches twice. -/
lemma enterCommitIn_alike (h : s.Alike s') (hdefinite : s.registry.Definite) (q : JoinRequest)
    (requester : PeerAddress) (g : Join.Grant) :
    State.AlikeWith (a.enterCommitIn o i s q requester g)
      (a.enterCommitIn o' i s' q requester g) := by
  have hcommit :=
    Join.commit_alike h.registry hdefinite o o' i s.now (a.draw s.drawn) q requester g
  obtain ⟨now, r, drawn, listeners, host, trace⟩ := s
  obtain ⟨now', r', drawn', listeners', host', trace'⟩ := s'
  obtain ⟨rfl, hr, rfl, rfl, rfl, htrace⟩ := h
  have hcommitted : ∀ n, State.Alike
      (⟨now,
        (Join.commit (Join.attachIn o i now requester) r now (a.draw drawn) q requester g).registry,
        n, listeners, host, trace⟩ : State η)
      ⟨now,
        (Join.commit (Join.attachIn o' i now requester) r' now (a.draw drawn) q requester
          g).registry,
        n, listeners, host, trace'⟩ := fun n => ⟨rfl, hcommit.registry, rfl, rfl, rfl, htrace⟩
  unfold enterCommitIn enterCommitBy
  dsimp only at hcommit ⊢
  rw [← hcommit.result, ← hcommit.drew, ← hcommit.notices]
  split
  · exact ⟨(hcommitted _).note _, rfl⟩
  · exact ⟨a.announce_alike ((hcommitted _).note _) _ _, rfl⟩

/-- A section comes to the same in alike states, in whatever orders it searches. -/
lemma enterIn_alike (h : s.Alike s') (hdefinite : s.registry.Definite) {pending : Section}
    (hguarded : ∀ call, pending = .whole call → call.isDirect = false)
    (hone : ∀ name, pending = .whole (.conferenceEnded name) → s.registry.sinkIsFragile = true →
      s.registry.Unique (·.conferenceName = name)) :
    State.AlikeWith (a.enterIn o i s pending) (a.enterIn o' i s' pending) := by
  cases pending with
  | whole call =>
    have hwhole := a.runWhole_alike h hdefinite (hguarded call rfl)
      fun name hname => hone name (congrArg Section.whole hname)
    exact ⟨hwhole.state, congrArg Progress.answered hwhole.value⟩
  | precheck q requester => exact a.enterPrecheck_alike h q requester
  | commit q requester g => exact a.enterCommitIn_alike o o' i h hdefinite q requester g

/-- A question to the verifier may follow. -/
lemma enterAndConsultIn_alike {pending : Section}
    (h : State.AlikeWith (a.enterIn o i s pending) (a.enterIn o' i s' pending))
    (registryFree : Bool) :
    State.AlikeWith (a.enterAndConsultIn o i s pending registryFree)
      (a.enterAndConsultIn o' i s' pending registryFree) := by
  unfold enterAndConsultIn consulting
  generalize a.enterIn o i s pending = reached, a.enterIn o' i s' pending = reached' at h
  obtain ⟨t, progress⟩ := reached
  obtain ⟨t', progress'⟩ := reached'
  obtain ⟨ht, rfl⟩ := h
  cases progress with
  | verifying context => exact ⟨ht.note _, rfl⟩
  | answered | waiting => exact ⟨ht, rfl⟩

end Authority

/-! ## Background tasks -/

/-- A sweep takes the same sessions, unless a sink breaks down between them. -/
lemma Sweeper.sweep_alike {s s' : State η} (h : s.Alike s') (w : Sweeper)
    (hone : w.isAwake = true → s.registry.sinkIsFragile = true →
      s.registry.Unique (·.isExpired s.now w.lifetime)) : (w.sweep s).2.Alike (w.sweep s').2 := by
  cases hphase : w.phase with
  | awake next =>
    have hremoved : Registry.Outcome.Removed s.registry .expired
        (s.registry.sweep s.now w.lifetime) (s'.registry.sweep s.now w.lifetime) :=
      h.registry.removeWhere .expired (hone (by simp only [isAwake, hphase]))
    have hstates := h.afterRemoval hremoved
    simp only [sweep, hphase, ← h.now, ← hremoved.completed, ← hremoved.tokens.length_eq]
    by_cases hcompleted : (s.registry.sweep s.now w.lifetime).value.completed = true
    · simp only [if_pos hcompleted]
      split
      · exact hstates
      · exact hstates.log _
    · simp only [if_neg hcompleted]
      exact hstates
  | spawned | asleep | stopped | panicked =>
    simp only [sweep, hphase]
    exact h

/-- A hook takes the same sessions, unless a sink breaks down between them. -/
lemma Hook.receive_alike {s s' : State η} (h : s.Alike s') (hook : Hook) (eager : Bool)
    (channel : Channel)
    (hone : ∀ name, hook.ended? eager channel = some name → s.registry.sinkIsFragile = true →
      s.registry.Unique (·.conferenceName = name)) :
    (hook.receive eager channel s).2.Alike (hook.receive eager channel s').2 := by
  unfold receive
  split
  · rename_i hphase
    split
    · rename_i name position hreceived
      cases eager with
      | false => exact h.log _
      | true =>
        have hpurged := Authority.purgeEnded_alike h
          (hone name (by simp only [ended?, hphase, hreceived, if_true]))
        simp only [apply, if_true]
        generalize Authority.purgeEnded s name = reached, Authority.purgeEnded s' name = reached'
          at hpurged
        obtain ⟨t, survives⟩ := reached
        obtain ⟨t', survives'⟩ := reached'
        obtain ⟨ht, rfl⟩ := hpurged
        cases survives <;> exact ht
    · exact h.log _
    · exact (h.log _).log _
    · exact h
  · exact h

/-! ## Moves -/

/-- The worlds are the same, except for the order in which sessions come up and are removed. -/
structure World.Alike (w w' : World η) : Prop where
  state : w.state.Alike w'.state
  /-- Every call has come as far, and has the same answer if it has one. -/
  flight : w.flight = w'.flight

/-- Which sessions a move is to remove although nobody asked for it by name, and why. -/
def Move.doomed? (a : Authority η) (w : World η) : Move → Option (RemovalReason × (Session → Bool))
  | .sweep sweeper =>
    if sweeper.isAwake then some (.expired, fun x => x.isExpired w.state.now sweeper.lifetime)
    else none
  | .receive hook channel =>
    (hook.ended? a.config.destroyOnConferenceEnd channel).map fun name =>
      (.conferenceEnded, fun x => x.conferenceName = name)
  | .enter n registryFree =>
    match (Move.enter n registryFree).entered? w with
    | some (.whole (.conferenceEnded name)) =>
      some (.conferenceEnded, fun x => x.conferenceName = name)
    | _ => none
  | _ => none

namespace World.Alike

variable {w w' : World η}

/-- A world is like itself. -/
lemma refl (w : World η) : w.Alike w := ⟨⟨rfl, .refl _, rfl, rfl, rfl, .refl _⟩, rfl⟩

/-- Worlds stay alike if the same is put down for a call. -/
lemma put (hflight : w.flight = w'.flight) (n : Nat) (call : Call)
    {reached reached' : State η × Progress} (h : State.AlikeWith reached reached') :
    (w.put n call reached).Alike (w'.put n call reached') := by
  refine ⟨h.state, ?_⟩
  simp only [World.put, hflight, h.value]

/-- A move runs the same section in worlds that are alike. -/
lemma entered?_eq (h : w.Alike w') (m : Move) : m.entered? w = m.entered? w' := by
  cases m <;> simp only [Move.entered?, h.flight]

/-- A move dooms the same sessions in worlds that are alike. -/
lemma doomed?_eq (h : w.Alike w') (a : Authority η) (m : Move) :
    m.doomed? a w = m.doomed? a w' := by
  cases m <;> simp only [Move.doomed?, h.entered?_eq, h.state.now]

/-- Worlds that are alike stay so in any two orders. -/
lemma arranged (h : w.Alike w') (o o' : SearchOrder) (k : Nat) :
    (w.arranged o k).Alike (w'.arranged o' k) := by
  obtain ⟨now, registry, drawn, listeners, host, trace⟩ := h.state
  exact ⟨⟨now, registry.arranged o o' k, drawn, listeners, host, trace⟩, h.flight⟩

/-- A call gets the registry. -/
lemma enterIn (h : w.Alike w') (o o' : SearchOrder) (i : Nat) (a : Authority η)
    (hdefinite : w.state.registry.Definite) (n : Nat) (registryFree : Bool)
    (hguarded : ∀ call, (Move.enter n registryFree).entered? w = some (.whole call) →
      call.isDirect = false)
    (hone : ∀ removal, (Move.enter n registryFree).doomed? a w = some removal →
      w.state.registry.sinkIsFragile = true → w.state.registry.Unique removal.2) :
    (w.stepIn o i a (.enter n registryFree)).Alike (w'.stepIn o' i a (.enter n registryFree)) := by
  have hs := h.state
  simp only [World.stepIn, ← h.flight]
  split
  · rename_i call pending hflight
    have hentered : (Move.enter n registryFree).entered? w = some pending := by
      simp only [Move.entered?, hflight]
    have hone' : ∀ name : String, pending = .whole (.conferenceEnded name) →
        w.state.registry.sinkIsFragile = true →
          w.state.registry.Unique (·.conferenceName = name) := by
      rintro name rfl
      have hdoomed : Move.doomed? a w (.enter n registryFree) =
          some (.conferenceEnded, fun x => decide (x.conferenceName = name)) := by
        simp only [Move.doomed?, hentered]
      exact hone _ hdoomed
    have henter := a.enterIn_alike o o' i hs hdefinite
      (fun call hcall => hguarded call (hcall ▸ hentered)) hone'
    exact .put h.flight n call (a.enterAndConsultIn_alike o o' i henter registryFree)
  · exact h

/-- **A move comes to the same in alike worlds**, if no search has a choice. -/
theorem stepIn (h : w.Alike w') (o o' : SearchOrder) (i : Nat) (a : Authority η)
    (hdefinite : w.state.registry.Definite) {m : Move}
    (hguarded : ∀ call, m.entered? w = some (.whole call) → call.isDirect = false)
    (hone : ∀ removal, m.doomed? a w = some removal → w.state.registry.sinkIsFragile = true →
      w.state.registry.Unique removal.2) :
    (w.stepIn o i a m).Alike (w'.stepIn o' i a m) := by
  have hs := h.state
  cases m with
  | arrive n call =>
    simp only [World.stepIn, World.step, ← h.flight]
    split
    · exact .put h.flight n call (a.arrive_alike hs call)
    · exact h
  | enter n registryFree => exact h.enterIn o o' i a hdefinite n registryFree hguarded hone
  | answer n verdict =>
    simp only [World.stepIn, World.step, ← h.flight]
    split
    · exact .put h.flight n _ (Authority.conclude_alike hs _ verdict)
    · exact h
  | abandon n =>
    simp only [World.stepIn, World.step, ← h.flight]
    split
    · exact h
    · exact h
    · exact ⟨hs, rfl⟩
  | wait nanos =>
    obtain ⟨now, registry, drawn, listeners, host, trace⟩ := hs
    exact ⟨⟨congrArg (· + (nanos : Int)) now, registry, drawn, listeners, host, trace⟩, h.flight⟩
  | sweep sweeper =>
    -- A sink that breaks down in between leaves what comes up later, unless one session is doomed.
    refine ⟨Sweeper.sweep_alike hs sweeper fun hawake => ?_, h.flight⟩
    have hdoomed : Move.doomed? a w (.sweep sweeper) =
        some (.expired, fun x => x.isExpired w.state.now sweeper.lifetime) := by
      simp only [Move.doomed?, hawake, if_true]
    exact hone _ hdoomed
  | receive hook channel =>
    refine ⟨Hook.receive_alike hs hook _ channel fun name hended => ?_, h.flight⟩
    have hdoomed : Move.doomed? a w (.receive hook channel) =
        some (.conferenceEnded, fun x => decide (x.conferenceName = name)) := by
      simp only [Move.doomed?, hended, Option.map_some]
    exact hone _ hdoomed
  | relist change =>
    obtain ⟨now, registry, drawn, listeners, host, trace⟩ := hs
    exact ⟨⟨now, registry, drawn, by simp only [World.stepIn, World.step, listeners], host, trace⟩,
      h.flight⟩

end World.Alike

/-! ## Runs -/

/-- A listener is told something. -/
def Notice.isHeard : Notice → Bool
  | .heard .. => true
  | _ => false

/-- No removal is told to listeners. -/
lemma Registry.isHeard_removalNotices (r : Registry) (reason : RemovalReason) (x : Session) :
    ∀ n ∈ r.removalNotices reason x, n.isHeard = false := by
  intro n hn
  rcases List.mem_cons.mp hn with rfl | hn
  · rfl
  · unfold report Event.reportedTo at hn
    split at hn
    · rw [List.mem_singleton.mp hn]
      rfl
    · rw [List.mem_singleton.mp hn]
      rfl

namespace Run

variable {ρ : Run η} {k : Nat}

/-- Which sessions move `k` is to remove although nobody asked for it by name, and why. -/
def doomed? (ρ : Run η) (o : SearchOrder) (k : Nat) :
    Option (RemovalReason × (Session → Bool)) := do
  Move.doomed? ρ.authority (ρ.worldVia o k) (← ρ.moves[k]?)

/-- In the first `k` moves no sink breaks down while several sessions are to be removed.  One that
does leaves all of them but the one that came up first. -/
def Uncut (ρ : Run η) (k : Nat) : Prop :=
  ∀ j < k, ∀ removal, ρ.doomed? .byCreation j = some removal →
    (ρ.registry j).sinkIsFragile = true → (ρ.registry j).Unique removal.2

/-- A sink that takes every event never breaks down. -/
lemma Guarded.uncut (h : ρ.Guarded) (hsink : ρ.start.registry.sinkIsFragile = false) (k : Nat) :
    ρ.Uncut k := by
  intro j _ removal _ hfragile
  rw [Registry.sinkIsFragile, h.sink_eq j] at hfragile
  exact absurd (hsink.symm.trans hfragile) Bool.false_ne_true

/-- Only an authority's own calls and tasks change the registry, so no search ever has a choice. -/
lemma Guarded.definite (h : ρ.Guarded) (k : Nat) : (ρ.registry k).Definite := by
  constructor
  · intro machineId identity x hx y hy hxd hyd
    simp only [Bool.and_eq_true, decide_eq_true_eq] at hxd hyd
    have hdevice : x.binding.device = y.binding.device :=
      Prod.ext (hxd.2.trans hyd.2.symm) (hxd.1.trans hyd.1.symm)
    have hbinding := h.binding_eq (Registry.binding_mem hx) (Registry.binding_mem hy) hdevice
    exact Registry.session_eq hx hy (congrArg Binding.token hbinding)
  · intro peer x hx y hy hxp hyp
    have huses := uses_iff h.empty .byCreation k peer
    have hregistry : ρ.registryIn .byCreation k = ρ.registry k :=
      congrArg (fun w => w.state.registry) (ρ.worldIn_byCreation k)
    rw [hregistry] at huses
    have hholds := (huses x.token).mp ⟨x, hx, rfl, of_decide_eq_true hxp⟩
    have hholds' := (huses y.token).mp ⟨y, hy, rfl, of_decide_eq_true hyp⟩
    exact Registry.session_eq hx hy (hholds.token_eq hholds')

/-- A move dooms the same sessions in both runs. -/
lemma doomed?_eq {o o' : SearchOrder} (h : (ρ.worldVia o k).Alike (ρ.worldVia o' k)) :
    ρ.doomed? o k = ρ.doomed? o' k := by
  cases hm : ρ.moves[k]? with
  | none => simp only [doomed?, hm, Option.bind_eq_bind, Option.bind_none]
  | some m => simp only [doomed?, hm, Option.bind_eq_bind, Option.bind_some, h.doomed?_eq]

/-- What is known of removals in the order of creation is known of them in any order. -/
lemma Uncut.unique (h : ρ.Uncut k) {o : SearchOrder} {j : Nat} (hj : j < k)
    (halike : (ρ.worldVia .byCreation j).Alike (ρ.worldVia o j))
    {removal : RemovalReason × (Session → Bool)} (hdoomed : ρ.doomed? o j = some removal)
    (hfragile : (ρ.registryVia o j).sinkIsFragile = true) :
    (ρ.registryVia o j).Unique removal.2 := by
  have hregistry : (ρ.registry j).Alike (ρ.registryVia o j) := by
    rw [worldVia_byCreation] at halike
    exact halike.state.registry
  refine hregistry.unique (h j hj removal ?_ ?_)
  · rw [doomed?_eq halike]
    exact hdoomed
  · rw [hregistry.sinkIsFragile_eq]
    exact hfragile

/-- Two orders make no difference if the first of them makes none to the order of creation. -/
lemma Guarded.alike (h : ρ.Guarded) (huncut : ρ.Uncut k) {o : SearchOrder}
    (hbase : ∀ j ≤ k, (ρ.worldVia .byCreation j).Alike (ρ.worldVia o j)) (o' : SearchOrder) :
    ∀ j ≤ k, (ρ.worldVia o j).Alike (ρ.worldVia o' j) := by
  intro j hj
  induction j with
  | zero =>
    have hstart : (World.quiet ρ.start).Alike (World.quiet ρ.start) := .refl _
    exact hstart.arranged o o' 0
  | succ j ih =>
    have halike := ih (Nat.le_of_succ_le hj)
    cases hm : ρ.moves[j]? with
    | none =>
      rw [worldVia_succ_of_none hm, worldVia_succ_of_none hm]
      exact halike.arranged o o' (2 * (j + 1))
    | some m =>
      have hcreation := hbase j (Nat.le_of_succ_le hj)
      have hworld : (ρ.world j).Alike (ρ.worldVia o j) := ρ.worldVia_byCreation j ▸ hcreation
      have hdefinite := hworld.state.registry.definite (h.definite j)
      rw [worldVia_succ hm, worldVia_succ hm]
      refine (halike.stepIn o o' (2 * j + 1) ρ.authority hdefinite ?_ ?_).arranged o o'
        (2 * (j + 1))
      · intro call hentered
        refine h.not_isDirect_of_entered (k := j) ?_
        simp only [entered?, hm, Option.bind_eq_bind, Option.bind_some]
        exact (hworld.entered?_eq m).trans hentered
      · intro removal hdoomed
        refine huncut.unique hj hcreation ?_
        simpa only [doomed?, hm, Option.bind_eq_bind, Option.bind_some] using hdoomed

/-- **In whatever order the sessions come up, the worlds are alike.** -/
lemma Guarded.worldVia_alike (h : ρ.Guarded) (huncut : ρ.Uncut k) (o o' : SearchOrder) :
    ∀ j ≤ k, (ρ.worldVia o j).Alike (ρ.worldVia o' j) :=
  -- First the order of creation is compared with the one, then this one with the other.
  have hself : ∀ j ≤ k, (ρ.worldVia .byCreation j).Alike (ρ.worldVia .byCreation j) :=
    fun _ _ => .refl _
  h.alike huncut (h.alike huncut hself o) o'

/-- What two orders have in common, up to the world that move `k` finds. -/
structure OrderIndependent (ρ : Run η) (o o' : SearchOrder) (k : Nat) : Prop where
  /-- After every move all calls have come as far, with the same answers; the clock, the listeners
  and the host are the same, there are the same sessions and the same sink, and the same has been
  seen, except that a sweep or a purge may have told of its removals in another order. -/
  alike : ∀ j ≤ k, (ρ.worldVia o j).Alike (ρ.worldVia o' j)
  /-- Every call is answered by the same. -/
  answer : ∀ j ≤ k, ∀ n, (ρ.worldVia o j).answer? n = (ρ.worldVia o' j).answer? n
  /-- The listeners are told the same, in the same order. -/
  heard : ∀ j ≤ k, (ρ.worldVia o j).state.trace.filter (·.2.isHeard) =
    (ρ.worldVia o' j).state.trace.filter (·.2.isHeard)
  /-- Sweeps and purges are meant for the same sessions, come to the same end, and take the same
  tokens. -/
  removed : ∀ j < k, ∀ removal, ρ.doomed? o j = some removal → ρ.doomed? o' j = some removal ∧
    ((ρ.registryVia o j).removeWhere removal.1 removal.2).value.completed =
      ((ρ.registryVia o' j).removeWhere removal.1 removal.2).value.completed ∧
    ((ρ.registryVia o j).removeWhere removal.1 removal.2).value.tokens.Perm
      ((ρ.registryVia o' j).removeWhere removal.1 removal.2).value.tokens

/-- **The order in which sessions come up is of no consequence**, if the registry is empty at first
and changed only through its authority. -/
theorem orderIndependent (h : ρ.Guarded) (huncut : ρ.Uncut k) (o o' : SearchOrder) :
    ρ.OrderIndependent o o' k := by
  have halike := h.worldVia_alike huncut
  refine ⟨halike o o', ?_, ?_, ?_⟩
  · intro j hj n
    rw [World.answer?, World.answer?, (halike o o' j hj).flight]
  · intro j hj
    exact (halike o o' j hj).state.trace.filter_eq fun _ r reason x =>
      r.isHeard_removalNotices reason x
  · intro j hj removal hdoomed
    have hworlds := halike o o' j (Nat.le_of_lt hj)
    have hone := huncut.unique hj (halike .byCreation o j (Nat.le_of_lt hj)) hdoomed
    have hremoved := hworlds.state.registry.removeWhere removal.1 hone
    exact ⟨(doomed?_eq hworlds).symm.trans hdoomed, hremoved.completed, hremoved.tokens⟩

/-- Two joins open sessions, and nobody uses them until both have expired. -/
def crowded : Run Unit where
  authority := .sample .reverify
  start := .initial 0 (some ⟨"log", false⟩) ()
  moves := [.arrive 0 (.join (.plain "desk" "room") ⟨"wire"⟩), .enter 0 true,
    .answer 0 (.ok (.plain "ann")), .enter 0 true,
    .arrive 1 (.join (.plain "lamp" "room") ⟨"radio"⟩), .enter 1 true,
    .answer 1 (.ok (.plain "bob")), .enter 1 true, .wait 30000000,
    .sweep ⟨.sampleLifetime, Config.minSweepInterval, .awake 40000000⟩]

/-- Two sessions come up in either order, and go in one sweep. -/
theorem crowded_orderIndependent :
    crowded.Guarded ∧ crowded.Uncut 10 ∧ crowded.OrderIndependent .byCreation .alternating 10 ∧
      ((crowded.registryVia .byCreation 9).sweep 30000000 (.ofMillis 20)).value.tokens =
        [.ofNumber 0, .ofNumber 1] ∧
      ((crowded.registryVia .alternating 9).sweep 30000000 (.ofMillis 20)).value.tokens =
        [.ofNumber 1, .ofNumber 0] := by
  have hguarded : crowded.Guarded := ⟨rfl, by decide⟩
  have huncut : crowded.Uncut 10 := hguarded.uncut rfl 10
  exact ⟨hguarded, huncut, orderIndependent hguarded huncut .byCreation .alternating, by decide,
    by decide⟩

end Run

end Admittance
