import Admittance.Proofs.OrderIndependence
import Admittance.Proofs.Uniqueness

/-!
# What a successful join changes

A join that succeeds at its commit comes to use one session, and nothing else in the registry
changes but that the sessions which its connection used before lose it.  The session is the one that
the machine and the identity have already, with the connection and the time of the commit put in,
and no event is reported; or it is a new one, and the sink hears of it once, with what the verifier
wants recorded (`Run.Seating`).  Right afterwards the connection is found to have the identity, in
whatever order the sessions come up, and each listener has been told once (`Run.Admission`).

The change is first described for any registry (`Registry.Boarded`): one token is looked up with one
result, and every other token with the result that it had before, less the connection.  A commit
composes a search, perhaps a creation, and an attachment; each of them has a lemma that says what it
does to every look-up.
-/

namespace Admittance

variable {η : Type}

/-! ## Registries -/

/-- The session as a connection leaves it that used it. -/
def Session.leftBy (p : PeerAddress) (x : Session) : Session :=
  if x.peer = some p then { x with peer := none } else x

namespace Registry

variable {r r' : Registry} {p : PeerAddress}

/-- The connection has come to use the session `x`, which is as given, and has left all others. -/
structure Boarded (r r' : Registry) (p : PeerAddress) (x : Session) : Prop where
  self : r'.get? x.token = some x
  others : ∀ t, t ≠ x.token → r'.get? t = (r.get? t).map (Session.leftBy p)

/-- A connection turns to a session that is live. -/
lemma boarded_reattach (now : Instant) (p : PeerAddress) {x : Session}
    (hx : r.get? x.token = some x) :
    Boarded r (r.reattach now x.token p) p (x.usedBy p now) := by
  constructor
  · show (r.reattach now x.token p).get? x.token = _
    rw [get?_reattach, hx, Option.map_some, reattached, if_pos rfl]
  · intro t ht
    have hne : t ≠ x.token := ht
    rw [get?_reattach]
    cases hget : r.get? t with
    | none => rfl
    | some y =>
      have htoken : y.token ≠ x.token := fun h => hne ((get?_eq_some hget).2.symm.trans h)
      rw [Option.map_some, Option.map_some, reattached, if_neg htoken]
      rfl

/-- What has become of that session before is of no account. -/
lemma Boarded.of_before {r₀ : Registry} {x : Session} (h : Boarded r r' p x)
    (hbefore : ∀ t, t ≠ x.token → r.get? t = r₀.get? t) : Boarded r₀ r' p x := by
  constructor
  · exact h.self
  · intro t ht
    rw [h.others t ht, hbefore t ht]

/-- The session that a connection has come to use is the only one that it uses. -/
lemma Boarded.token_eq_of_uses {x : Session} (h : Boarded r r' p x) {t : SessionToken}
    (huses : r'.Uses p t) : t = x.token := by
  obtain ⟨y, hy, rfl, hpeer⟩ := huses
  by_contra hne
  have hget := h.others y.token hne
  rw [get?_eq_some_iff.mpr ⟨hy, rfl⟩] at hget
  obtain ⟨z, -, hz⟩ := Option.map_eq_some_iff.mp hget.symm
  -- Whatever `p` used before it does not use any more.
  have hleft : (Session.leftBy p z).peer ≠ some p := by
    unfold Session.leftBy
    split
    · simp
    · assumption
  exact hleft (hz ▸ hpeer)

/-- In whatever order the sessions come up, the search by connection finds it. -/
lemma Boarded.findByPeer?_eq {x : Session} (h : Boarded r r' p x) (hp : p.isEmpty = false)
    (hpeer : x.peer = some p) (o : SearchOrder) (i : Nat) :
    (r'.arranged o i).findByPeer? p = some x := by
  have hx := (get?_eq_some_iff.mp h.self).1
  cases hfound : (r'.arranged o i).findByPeer? p with
  | none =>
    have hunused := not_uses_of_findByPeer?_eq_none (t := x.token) hp hfound
    exact absurd ⟨x, mem_arranged.mpr hx, rfl, hpeer⟩ hunused
  | some y =>
    obtain ⟨hy, hy'⟩ := findByPeer?_eq_some hfound
    have hmem : y ∈ r'.sessions := mem_arranged.mp hy
    have htoken := h.token_eq_of_uses ⟨y, hmem, rfl, hy'⟩
    rw [session_eq hmem hx htoken]

end Registry

/-! ## Listeners -/

/-- What listeners were told so far, and when. -/
def State.heard (s : State η) : List (Instant × Notice) := s.trace.filter fun e => e.2.isHeard

/-- What sinks and listeners hear comes to what they heard before. -/
lemma State.heard_note (s : State η) (notices : List Notice) :
    (s.note notices).heard =
      s.heard ++ (notices.filter Notice.isHeard).map fun n => (s.now, n) := by
  simp only [heard, note, List.filter_append, List.filter_map]
  rfl

/-- Every listener that is registered when a notification begins is told once, whatever the
listeners do meanwhile. -/
lemma ListenerSet.filter_isHeard_call (react : η → ListenerId → Reaction η) (news : News)
    (index : Nat) (ls : List ListenerId) (host : η) (set : ListenerSet) :
    (call react news index ls host set).2.2.filter Notice.isHeard =
      ls.map fun l => .heard l news.peer news.identity news.token := by
  induction ls generalizing index host set with
  | nil => rfl
  | cons l rest ih =>
    have hchanged : ∀ changes, ((set.changeAll changes).2).filter Notice.isHeard = [] := by
      intro changes
      rw [List.filter_eq_nil_iff]
      intro n hn
      obtain ⟨added, l, changed, rfl⟩ := mem_changeAll hn
      exact Bool.false_ne_true
    have hpanic : ∀ panic, (panicNotices index news panic).filter Notice.isHeard = [] := by
      intro panic
      cases panic <;> rfl
    simp only [call]
    rw [List.filter_cons_of_pos rfl, List.filter_append, List.filter_append, hchanged, hpanic, ih]
    rfl

/-! ## Commits -/

/-- A join comes by a session that is there, or opens one. -/
lemma Join.seat_eq_ok {r : Registry} {now : Instant} {d : Drawing} {q : JoinRequest}
    {g : Join.Grant} {st : Join.Seat} (h : Join.seat r now d q g = .ok st) :
    (∃ x, r.get? x.token = some x ∧ st = ⟨r, x.token, false, []⟩ ∧
        (g = .reuse x.token ∨
          ∃ v, g = .verified v ∧ x.machineId = q.machineId ∧ x.identity = v.identity)) ∨
      ∃ v, g = .verified v ∧ r.findByIdentity? q.machineId v.identity = none ∧
        st = ⟨(r.create now d q.machineId v.identity q.conferenceName v.properties).registry,
          r.freshToken d, true,
          (r.create now d q.machineId v.identity q.conferenceName v.properties).notices⟩ := by
  cases g with
  | reuse t =>
    cases hget : r.get? t with
    | none =>
      simp only [seat, hget] at h
      cases h
    | some x =>
      obtain ⟨-, rfl⟩ := Registry.get?_eq_some hget
      simp only [seat, hget] at h
      exact .inl ⟨x, hget, (Except.ok.inj h).symm, .inl rfl⟩
  | verified v =>
    cases hfind : r.findByIdentity? q.machineId v.identity with
    | some x =>
      obtain ⟨hx, hmachine, hidentity⟩ := Registry.findByIdentity?_eq_some hfind
      simp only [seat, hfind] at h
      exact .inl ⟨x, Registry.get?_eq_some_iff.mpr ⟨hx, rfl⟩, (Except.ok.inj h).symm,
        .inr ⟨v, rfl, hmachine, hidentity⟩⟩
    | none =>
      simp only [seat, hfind] at h
      exact .inr ⟨v, rfl, hfind, (Except.ok.inj h).symm⟩

/-- What is noted and is not told to listeners does not count as told to them. -/
lemma State.heard_note_of_quiet (s : State η) {notices : List Notice}
    (h : ∀ n ∈ notices, n.isHeard = false) : (s.note notices).heard = s.heard :=
  congrArg State.trace (s.keeping_note h)

namespace Authority

variable (a : Authority η) (s : State η)

/-- A notification tells every listener once. -/
lemma heard_announce (requester : PeerAddress) (x : Session) :
    (a.announce s requester x).heard = s.heard ++
      s.listeners.listeners.map fun l => (s.now, .heard l requester x.identity x.token) := by
  refine (State.heard_note { s with
    host := (notified a s requester x).1
    listeners := (notified a s requester x).2.1 } _).trans ?_
  rw [ListenerSet.filter_isHeard_call, List.map_map]
  rfl

/-- What a join does that has come by its session. -/
structure Arrives (s s' : State η) (requester : PeerAddress) (x : Session) : Prop where
  boarded : s.registry.Boarded s'.registry requester (x.usedBy requester s.now)
  size : s'.registry.size = s.registry.size
  sink : s'.registry.sink = s.registry.sink
  events : s'.events = s.events
  heard : s'.heard = s.heard ++
    s.listeners.listeners.map fun l => (s.now, .heard l requester x.identity x.token)

/-- A join attaches its connection and tells the listeners. -/
lemma arrives (requester : PeerAddress) {x : Session} (hx : s.registry.get? x.token = some x) :
    Arrives s (a.attachAndAnnounce s requester x) requester x := by
  have hattach : s.registry.attach s.now x.token requester =
      { registry := s.registry.reattach s.now x.token requester
        value := some (x.usedBy requester s.now)
        notices := (s.registry.sessions.filter (Registry.isRival x.token requester)).map fun y =>
          .record (.peerDetached y.token requester) } := by
    simp only [Registry.attach, hx]
  have hregistry : (a.attachAndAnnounce s requester x).registry =
      s.registry.reattach s.now x.token requester :=
    congrArg Registry.Outcome.registry hattach
  have hlive : s.registry.IsLive x.token := Registry.isLive_iff_get?.mpr ⟨x, hx⟩
  constructor
  case boarded =>
    rw [hregistry]
    exact Registry.boarded_reattach s.now requester hx
  case size =>
    rw [hregistry]
    exact List.length_map _
  case sink =>
    rw [hregistry]
    rfl
  case events => exact (Silent.attachAndAnnounce a requester hlive).events
  case heard =>
    have hrecords : ∀ n ∈ (s.registry.attach s.now x.token requester).notices,
        n.isHeard = false := by
      rw [hattach]
      intro n hn
      obtain ⟨y, -, rfl⟩ := List.mem_map.mp hn
      rfl
    have hattached : (afterOperation s (s.registry.attach s.now x.token requester)).heard =
        s.heard :=
      State.heard_note_of_quiet { s with
        registry := (s.registry.attach s.now x.token requester).registry } hrecords
    have hlogged : ((afterOperation s (s.registry.attach s.now x.token requester)).log
        (.peerAuthenticated requester x.identity x.token)).heard = s.heard := by
      refine (State.heard_note_of_quiet _ fun n hn => ?_).trans hattached
      rw [List.mem_singleton.mp hn]
      rfl
    refine (a.heard_announce _ requester _).trans ?_
    rw [hlogged]
    rfl

/-- A join that uses a session that is there changes nothing before it attaches its connection. -/
lemma takeSeat_self (t : SessionToken) : takeSeat s ⟨s.registry, t, false, []⟩ = s := by
  simp only [takeSeat, State.note, List.map_nil, List.append_nil, Bool.false_eq_true, if_false]

/-- What a join has seen and reported that opens a session. -/
lemma takeSeat_create (machineId identity conferenceName : String) (properties : TextMap) :
    let made :=
      s.registry.create s.now (a.draw s.drawn) machineId identity conferenceName properties
    (takeSeat s ⟨made.registry, a.nextToken s, true, made.notices⟩).events =
        s.events ++ s.reported (.created (a.nextToken s) identity machineId properties) ∧
      (takeSeat s ⟨made.registry, a.nextToken s, true, made.notices⟩).heard = s.heard := by
  constructor
  · refine (State.events_note _ _).trans ?_
    show s.events ++ _ = _
    rw [Registry.create, List.filterMap_append, Notice.filterMap_event?_records, List.nil_append]
    exact congrArg (s.events ++ ·) (State.map_report s _)
  · refine State.heard_note_of_quiet _ fun n hn => ?_
    rcases List.mem_append.mp hn with hn | hn
    · obtain ⟨record, -, rfl⟩ := List.mem_map.mp hn
      rfl
    · unfold Registry.report Event.reportedTo at hn
      split at hn
      · rw [List.mem_singleton.mp hn]
        rfl
      · rw [List.mem_singleton.mp hn]
        rfl

/-- The two ways in which a commit succeeds. -/
inductive Commitment (a : Authority η) (s s' : State η) (q : JoinRequest)
    (requester : PeerAddress) : Join.Grant → Session → Prop
  /-- It uses a session that is there. -/
  | reused (g : Join.Grant) (x : Session) (before : s.registry.get? x.token = some x)
      (grounds : g = .reuse x.token ∨
        ∃ v, g = .verified v ∧ x.machineId = q.machineId ∧ x.identity = v.identity)
      (arrives : Arrives s s' requester x) : Commitment a s s' q requester g x
  /-- It opens the session, and goes on from there. -/
  | opened (v : Verified) (between : State η)
      (nobody : s.registry.findByIdentity? q.machineId v.identity = none)
      (registry : between.registry = (s.registry.create s.now (a.draw s.drawn) q.machineId
        v.identity q.conferenceName v.properties).registry)
      (now : between.now = s.now) (listeners : between.listeners = s.listeners)
      (events : between.events =
        s.events ++ s.reported (.created (a.nextToken s) v.identity q.machineId v.properties))
      (heard : between.heard = s.heard)
      (arrives : Arrives between s' requester
        (.opened (a.nextToken s) q.machineId v.identity q.conferenceName s.now)) :
      Commitment a s s' q requester (.verified v)
        (.opened (a.nextToken s) q.machineId v.identity q.conferenceName s.now)

/-- **A commit that succeeds uses a session that is there, or opens one.** -/
theorem commitment {q : JoinRequest} {requester : PeerAddress} {g : Join.Grant}
    {response : JoinResponse}
    (h : (a.enterCommit s q requester g).2 = .answered (.join (.ok response))) :
    ∃ x, response = ⟨x.identity, x.token⟩ ∧
      Commitment a s (a.enterCommit s q requester g).1 q requester g x := by
  cases hseat : Join.seat s.registry s.now (a.draw s.drawn) q g with
  | error e =>
    rw [a.enterCommit_of_seat_eq_error requester hseat] at h
    cases h
  | ok st =>
    rcases Join.seat_eq_ok hseat with ⟨x, hx, rfl, hgrounds⟩ | ⟨v, rfl, hnobody, rfl⟩
    · have hcommit := a.enterCommit_of_seat_eq_ok requester hseat hx
      rw [takeSeat_self] at hcommit
      rw [hcommit] at h ⊢
      refine ⟨x, ?_, .reused g x hx hgrounds (a.arrives s requester hx)⟩
      exact (Except.ok.inj (Answer.join.inj (Progress.answered.inj h))).symm
    · have hx : (s.registry.create s.now (a.draw s.drawn) q.machineId v.identity q.conferenceName
          v.properties).registry.get? (a.nextToken s) =
            some (.opened (a.nextToken s) q.machineId v.identity q.conferenceName s.now) := by
        rw [Registry.get?_create]
        exact if_pos rfl
      have hcommit := a.enterCommit_of_seat_eq_ok requester hseat hx
      obtain ⟨hevents, hheard⟩ := a.takeSeat_create s q.machineId v.identity q.conferenceName
        v.properties
      rw [hcommit] at h ⊢
      refine ⟨_, ?_, .opened v (takeSeat s _) hnobody rfl rfl rfl hevents hheard
        (a.arrives _ requester hx)⟩
      exact (Except.ok.inj (Answer.join.inj (Progress.answered.inj h))).symm

/-- Whichever way it is, one connection comes to use one session, and the listeners are told of
it. -/
lemma Commitment.frame {s' : State η} {q : JoinRequest} {requester : PeerAddress} {g : Join.Grant}
    {x : Session} (h : Commitment a s s' q requester g x) :
    s.registry.Boarded s'.registry requester (x.usedBy requester s.now) ∧
      s'.registry.sink = s.registry.sink ∧
      s'.heard = s.heard ++
        s.listeners.listeners.map fun l => (s.now, .heard l requester x.identity x.token) := by
  cases h with
  | reused g x before grounds arrives => exact ⟨arrives.boarded, arrives.sink, arrives.heard⟩
  | opened v between nobody registry now listeners events heard arrives =>
    have hboarded := arrives.boarded
    have hsink := arrives.sink
    have hheard := arrives.heard
    rw [registry, now] at hboarded
    rw [registry] at hsink
    rw [heard, now, listeners] at hheard
    refine ⟨hboarded.of_before fun t ht => ?_, hsink, hheard⟩
    rw [Registry.get?_create]
    exact if_neg ht

end Authority

/-! ## Runs -/

namespace Run

variable {ρ : Run η} {k n : Nat} {q : JoinRequest} {requester : PeerAddress}
  {response : JoinResponse}

/-- How a join comes by its session at move `k`. -/
inductive Seating (ρ : Run η) (k n : Nat) (q : JoinRequest) (requester : PeerAddress)
    (response : JoinResponse) : Prop
  /-- The machine and the identity have a session already, and no other one. -/
  | reused (x : Session) (before : (ρ.registry k).get? response.sessionToken = some x)
      (machine : x.machineId = q.machineId) (identity : x.identity = response.identity)
      (only : ∀ y ∈ (ρ.registry k).sessions, y.machineId = q.machineId →
        y.identity = response.identity → y = x)
      (after : (ρ.registry (k + 1)).get? response.sessionToken =
        some { x with peer := some requester, lastActivity := (ρ.world k).state.now })
      (size : (ρ.registry (k + 1)).size = (ρ.registry k).size)
      (events : (ρ.world (k + 1)).state.events = (ρ.world k).state.events)
  /-- They have none; one is opened, and this is reported with what the verifier of the join has
  answered. -/
  | opened (v : Verified) (j : Nat) (presented : Option Session) (earlier : j < k)
      (consulted : ρ.Consulted j n ⟨q, requester, presented⟩ (.ok v))
      (identity : v.identity = response.identity)
      (nobody : ∀ y ∈ (ρ.registry k).sessions,
        ¬ (y.machineId = q.machineId ∧ y.identity = response.identity))
      (fresh : (ρ.registry k).get? response.sessionToken = none)
      (after : (ρ.registry (k + 1)).get? response.sessionToken = some {
        token := response.sessionToken
        machineId := q.machineId
        identity := response.identity
        conferenceName := q.conferenceName
        peer := some requester
        lastActivity := (ρ.world k).state.now
        createdAt := (ρ.world k).state.now })
      (size : (ρ.registry (k + 1)).size = (ρ.registry k).size + 1)
      (events : (ρ.world (k + 1)).state.events = (ρ.world k).state.events ++
        (ρ.world k).state.reported (.created response.sessionToken response.identity q.machineId
          v.properties))

/-- What move `k` changes that has a join succeed. -/
structure Admission (ρ : Run η) (k n : Nat) (q : JoinRequest) (requester : PeerAddress)
    (response : JoinResponse) : Prop where
  seating : ρ.Seating k n q requester response
  /-- All other sessions are as they were; those that the connection used have lost it. -/
  others : ∀ t, t ≠ response.sessionToken →
    (ρ.registry (k + 1)).get? t = ((ρ.registry k).get? t).map (Session.leftBy requester)
  sink : (ρ.registry (k + 1)).sink = (ρ.registry k).sink
  /-- The connection is found to have the identity, in whatever order the sessions come up. -/
  lookup : requester.isEmpty = false → ∀ o i,
    (ρ.authority.runWhole ((ρ.world (k + 1)).arranged o i).state (.lookup requester)).2 =
      .identity (some response.identity)
  /-- Each listener is told once. -/
  heard : (ρ.world (k + 1)).state.heard = (ρ.world k).state.heard ++
    (ρ.world k).state.listeners.listeners.map fun l =>
      ((ρ.world k).state.now, .heard l requester response.identity response.sessionToken)
  listeners_nodup : (ρ.world k).state.listeners.listeners.Nodup

/-- The session that a commit uses is the one of the machine and the identity. -/
lemma Guarded.eq_of_device (h : ρ.Guarded) {x y : Session} (hx : x ∈ (ρ.registry k).sessions)
    (hy : y ∈ (ρ.registry k).sessions) (hmachine : y.machineId = x.machineId)
    (hidentity : y.identity = x.identity) : y = x := by
  have hbinding := h.binding_eq (Registry.binding_mem hy) (Registry.binding_mem hx)
    (Prod.ext hmachine hidentity)
  have htoken : y.token = x.token := congrArg Binding.token hbinding
  exact Registry.session_eq hy hx htoken

/-- A token that was trusted belongs to the machine that the request names, if no token is issued
twice. -/
lemma Granted.machineId_eq (h : ρ.TokensDistinct) {i : Nat} {presented : Option Session}
    {x : Session}
    (hgranted : ρ.Granted i k n q requester presented (.reuse x.token))
    (hx : (ρ.registry k).get? x.token = some x) : x.machineId = q.machineId := by
  obtain ⟨-, y, rfl, htoken⟩ := hgranted.trusted
  obtain ⟨hy, -, hmachine⟩ := hgranted.prechecked.presents
  have hbinding := h.binding_eq (Nat.le_of_lt hgranted.before) (Registry.binding_mem hy)
    (Registry.binding_mem (Registry.get?_eq_some hx).1) htoken
  exact (congrArg Binding.machineId hbinding).symm.trans hmachine

/-- **The exact effect of a successful join.**  Where valid tokens are trusted, none may be issued
twice. -/
theorem admission (h : ρ.Guarded)
    (hdistinct : ρ.authority.verifier.policy = .trustToken → ρ.TokensDistinct)
    (hjoins : ρ.Joins k n q requester response) : ρ.Admission k n q requester response := by
  obtain ⟨g, hcommits, hanswer⟩ := hjoins.committed
  obtain ⟨i, presented, hgranted⟩ := hcommits.granted
  obtain ⟨x, rfl, hcommitment⟩ := ρ.authority.commitment (ρ.world k).state hanswer
  have hstate : (ρ.world (k + 1)).state = (ρ.committed k q requester g).1 := by
    rw [hcommits.world_succ]
    rfl
  have hcommitted : (ρ.authority.enterCommit (ρ.world k).state q requester g).1 =
      (ρ.world (k + 1)).state := hstate.symm
  rw [hcommitted] at hcommitment
  obtain ⟨hboarded, hsink, hheard⟩ := hcommitment.frame
  constructor
  case others => exact hboarded.others
  case sink => exact hsink
  case lookup =>
    intro hnamed o m
    have hfound := hboarded.findByPeer?_eq hnamed rfl o m
    show Answer.identity ((((ρ.world (k + 1)).state.registry.arranged o m).findByPeer?
      requester).map (·.identity)) = _
    rw [hfound]
    rfl
  case heard => exact hheard
  case listeners_nodup => exact (ρ.world k).state.listeners.nodup
  case seating =>
    cases hcommitment with
    | reused g x before grounds arrives =>
      -- The commit does not look at the machine of a trusted token; the pre-check has done so.
      have hmachine : x.machineId = q.machineId := by
        rcases grounds with hreuse | ⟨v, -, hmachine, -⟩
        · subst hreuse
          exact hgranted.machineId_eq (hdistinct hgranted.trusted.1) before
        · exact hmachine
      have hx := (Registry.get?_eq_some before).1
      refine .reused x before hmachine rfl (fun y hy hmachine' hidentity => ?_) hboarded.self
        arrives.size arrives.events
      exact h.eq_of_device hx hy (hmachine'.trans hmachine.symm) hidentity
    | opened v between nobody registry now listeners events heard arrives =>
      obtain ⟨⟨j, -, hjk, hconsulted⟩, hidentity, -⟩ := hgranted.verified
      have hnobody := fun (y : Session) (hy : y ∈ (ρ.registry k).sessions) =>
        Registry.ne_of_findByIdentity?_eq_none hgranted.prechecked.named hidentity nobody
          (Registry.binding_mem hy)
      have hfresh : (ρ.registry k).get? (ρ.nextToken k) = none :=
        Registry.get?_eq_none_iff.mpr (ρ.authority.not_isLive_nextToken (ρ.world k).state)
      refine .opened v j presented hjk hconsulted rfl hnobody hfresh hboarded.self ?_
        (arrives.events.trans events)
      refine arrives.size.trans ?_
      rw [registry]
      exact List.length_append

/-- A device joins, another one joins, and then the first one joins another conference with its
token, over the connection of the second one. -/
def returned : Run Unit where
  authority := .sample .trustToken
  start := { State.initial 0 (some ⟨"log", false⟩) () with
    listeners := ⟨["door", "desk"], by decide⟩ }
  moves := [.arrive 0 (.join (.plain "desk" "room") ⟨"wire"⟩), .enter 0 true,
    .answer 0 (.ok (.plain "ann")), .enter 0 true,
    .arrive 1 (.join (.plain "phone" "room") ⟨"radio"⟩), .enter 1 true,
    .answer 1 (.ok (.plain "bob")), .enter 1 true,
    .arrive 2 (.join ((JoinRequest.plain "desk" "hall").withToken (.ofNumber 0)) ⟨"radio"⟩),
    .enter 2 true, .wait 7, .enter 2 true]

/-- The first device has its session back, over the connection of the second one. -/
theorem returned_admission :
    returned.Guarded ∧ returned.TokensDistinct ∧
      returned.Joins 11 2 ((JoinRequest.plain "desk" "hall").withToken (.ofNumber 0)) ⟨"radio"⟩
        ⟨"ann", .ofNumber 0⟩ ∧
      returned.Admission 11 2 ((JoinRequest.plain "desk" "hall").withToken (.ofNumber 0)) ⟨"radio"⟩
        ⟨"ann", .ofNumber 0⟩ := by
  have hguarded : returned.Guarded := ⟨by decide, by decide⟩
  have hdistinct : returned.TokensDistinct := by decide
  have hjoins : returned.Joins 11 2 ((JoinRequest.plain "desk" "hall").withToken (.ofNumber 0))
      ⟨"radio"⟩ ⟨"ann", .ofNumber 0⟩ := ⟨⟨by rfl, by rfl⟩, by rfl⟩
  exact ⟨hguarded, hdistinct, hjoins, admission hguarded (fun _ => hdistinct) hjoins⟩

end Run

end Admittance
