import Admittance.Proofs.Joining
import Admittance.Proofs.Turn

/-!
# What one move can do

Every move, whatever it is, either opens one session under the next token or leaves a sublist of
the bindings that were there.  The two cases are the two shapes of an `Effect`, together with what
each of them reports to the sink: one creation, or removals of sessions that were live.  The sink
itself stays unless a call replaces it.  `World.step_effect` proves it for all moves at once, by
one lemma for each operation; whatever holds of runs for longer than one move is proved from it
and never looks into an operation again.
-/

namespace Admittance

variable {η : Type}

/-! ## Events and other news of a session -/

/-- The event in a notice, and the sink that takes it. -/
def Notice.event? : Notice → Option (String × Event)
  | .event sink e => some (sink, e)
  | _ => none

/-- The notice tells a sink or a listener of the session of a token. -/
def Notice.Concerns (t : SessionToken) : Notice → Prop
  | .event _ e => e.token = t
  | .heard _ _ _ token => token = t
  | _ => False

/-- The events so far, with the moment and the sink of each. -/
def State.events (s : State η) : List (Instant × String × Event) :=
  s.trace.filterMap fun entry => entry.2.event?.map fun e => (entry.1, e)

/-- What a sink takes when an event is reported now. -/
def State.reported (s : State η) (e : Event) : List (Instant × String × Event) :=
  match s.registry.sink with
  | some sink => [(s.now, sink.name, e)]
  | none => []

/-- Events come to those that sinks took before. -/
lemma State.events_note (s : State η) (notices : List Notice) :
    (s.note notices).events =
      s.events ++ (notices.filterMap Notice.event?).map fun e => (s.now, e) := by
  simp only [State.events, State.note, List.filterMap_append, List.filterMap_map,
    List.map_filterMap]
  rfl

/-- A record is no event. -/
lemma Notice.filterMap_event?_records (records : List Log.Record) :
    (records.map Notice.record).filterMap Notice.event? = [] := by
  simp [List.filterMap_eq_nil_iff, Notice.event?]

/-- A report comes to one event, at the moment of the report, or to none. -/
lemma State.map_report (s : State η) (e : Event) :
    ((s.registry.report e).filterMap Notice.event?).map (fun e => (s.now, e)) = s.reported e := by
  unfold Registry.report Event.reportedTo State.reported
  cases s.registry.sink <;> rfl

/-- A report concerns the session of its event only. -/
lemma Registry.eq_of_report_concerns {r : Registry} {e : Event} {n : Notice} {t : SessionToken}
    (hn : n ∈ r.report e) (h : n.Concerns t) : e.token = t := by
  unfold Registry.report Event.reportedTo at hn
  split at hn <;> rw [List.mem_singleton.mp hn] at h
  · exact h
  · exact h.elim

/-! ## Silence -/

/-- Nothing happens that a sink hears of, and nothing to the bindings and the tokens. -/
structure Silent (s s' : State η) : Prop where
  bindings : s'.registry.bindings = s.registry.bindings
  sink : s'.registry.sink = s.registry.sink
  drawn : s'.drawn = s.drawn
  trace : ∃ more, s'.trace = s.trace ++ more ∧
    ∀ e ∈ more, e.2.event? = none ∧ ∀ t, e.2.Concerns t → s.registry.IsLive t

namespace Silent

/-- Where nothing happens, there is silence. -/
lemma refl (s : State η) : Silent s s := ⟨rfl, rfl, rfl, [], by simp, by simp⟩

/-- Silence goes on. -/
lemma trans {s s' s'' : State η} (h : Silent s s') (h' : Silent s' s'') : Silent s s'' := by
  obtain ⟨more, htrace, hmore⟩ := h.trace
  obtain ⟨more', htrace', hmore'⟩ := h'.trace
  refine ⟨h'.bindings.trans h.bindings, h'.sink.trans h.sink, h'.drawn.trans h.drawn,
    more ++ more', ?_, ?_⟩
  · rw [htrace', htrace, List.append_assoc]
  · intro e he
    rcases List.mem_append.mp he with he | he
    · exact hmore e he
    · refine ⟨(hmore' e he).1, fun t ht => ?_⟩
      have hlive : s'.registry.IsLive t := (hmore' e he).2 t ht
      simpa only [Registry.IsLive, Registry.tokens, h.bindings] using hlive

/-- In silence no sink takes an event. -/
lemma events {s s' : State η} (h : Silent s s') : s'.events = s.events := by
  obtain ⟨more, htrace, hmore⟩ := h.trace
  have hnone : more.filterMap (fun entry => entry.2.event?.map fun e => (entry.1, e)) = [] := by
    rw [List.filterMap_eq_nil_iff]
    intro e he
    rw [(hmore e he).1, Option.map_none]
  rw [State.events, htrace, List.filterMap_append, hnone, List.append_nil]
  rfl

/-- Notices that are no events, and tell of live sessions only. -/
lemma note (s s' : State η) (bindings : s'.registry.bindings = s.registry.bindings)
    (sink : s'.registry.sink = s.registry.sink) (drawn : s'.drawn = s.drawn)
    (trace : s'.trace = s.trace) {notices : List Notice}
    (h : ∀ n ∈ notices, n.event? = none ∧ ∀ t, n.Concerns t → s.registry.IsLive t) :
    Silent s (s'.note notices) := by
  refine ⟨bindings, sink, drawn, notices.map fun n => (s'.now, n), by rw [← trace]; rfl, ?_⟩
  intro e he
  obtain ⟨n, hn, rfl⟩ := List.mem_map.mp he
  exact h n hn

/-- What is not shown is no event and tells of nobody. -/
lemma ofUnchanged {s s' : State η} (h : Unchanged s s') : Silent s s' := by
  obtain ⟨notices, rfl, hnotices⟩ := h
  refine note s s rfl rfl rfl rfl fun n hn => ?_
  have hhidden := hnotices n hn
  cases n with
  | record | consulted => exact ⟨rfl, fun _ ht => ht.elim⟩
  | event | heard | relisted => exact absurd hhidden (by simp [Notice.isShown])

/-- A record of the log breaks no silence. -/
lemma log (s : State η) (record : Log.Record) : Silent s (s.log record) :=
  ofUnchanged (.log s record)

/-- An attachment is silent. -/
lemma attach (s : State η) (token : SessionToken) (peer : PeerAddress) :
    Silent s (Authority.afterOperation s (s.registry.attach s.now token peer)) := by
  refine note s { s with registry := (s.registry.attach s.now token peer).registry }
    (Registry.bindings_attach ..) (Registry.sink_attach ..) rfl rfl ?_
  intro n hn
  unfold Registry.attach at hn
  split at hn
  · simp at hn
  · obtain ⟨x, -, rfl⟩ := List.mem_map.mp hn
    exact ⟨rfl, fun t ht => ht.elim⟩

end Silent

/-! ### Listeners -/

namespace ListenerSet

/-- Whoever changes the listeners is told what came of it. -/
lemma mem_changeAll {set : ListenerSet} {changes : List ListenerChange} {n : Notice}
    (hn : n ∈ (set.changeAll changes).2) : ∃ added l changed, n = .relisted added l changed := by
  induction changes generalizing set with
  | nil => cases hn
  | cons c rest ih =>
    rcases List.mem_cons.mp hn with rfl | hn
    · cases c <;> exact ⟨_, _, _, rfl⟩
    · exact ih hn

/-- What is seen of a notification: listeners are told, ask for changes, and panic. -/
lemma mem_call {react : η → ListenerId → Reaction η} {news : News} {index : Nat}
    {ls : List ListenerId} {host : η} {set : ListenerSet} {n : Notice}
    (hn : n ∈ (call react news index ls host set).2.2) :
    (∃ l, n = .heard l news.peer news.identity news.token) ∨
      (∃ added l changed, n = .relisted added l changed) ∨
      ∃ i message, n = .record (.listenerPanicked i news.peer message) := by
  induction ls generalizing index host set with
  | nil => cases hn
  | cons l rest ih =>
    simp only [call, List.mem_cons, List.mem_append, or_assoc] at hn
    rcases hn with rfl | hn | hn | hn
    · exact .inl ⟨l, rfl⟩
    · exact .inr (.inl (mem_changeAll hn))
    · unfold panicNotices at hn
      split at hn
      · cases hn
      · exact .inr (.inr ⟨_, _, List.mem_singleton.mp hn⟩)
    · exact ih hn

/-- A notification is no event, and tells of the session that it is about. -/
lemma concerns_of_mem_call {react : η → ListenerId → Reaction η} {news : News} {index : Nat}
    {ls : List ListenerId} {host : η} {set : ListenerSet} {n : Notice}
    (hn : n ∈ (call react news index ls host set).2.2) :
    n.event? = none ∧ ∀ t, n.Concerns t → news.token = t := by
  rcases mem_call hn with ⟨l, rfl⟩ | ⟨added, l, changed, rfl⟩ | ⟨i, message, rfl⟩
  · exact ⟨rfl, fun t ht => ht⟩
  · exact ⟨rfl, fun t ht => ht.elim⟩
  · exact ⟨rfl, fun t ht => ht.elim⟩

end ListenerSet

/-- What comes of telling the listeners of an authenticated peer. -/
def notified (a : Authority η) (s : State η) (requester : PeerAddress) (x : Session) :
    η × ListenerSet × List Notice :=
  ListenerSet.notify a.react ⟨requester, x.identity, x.token⟩ s.host s.listeners

/-- Listeners are told of a live session. -/
lemma Silent.announce (a : Authority η) {s : State η} (requester : PeerAddress) {x : Session}
    (hlive : s.registry.IsLive x.token) : Silent s (a.announce s requester x) := by
  refine Silent.note s { s with
    host := (notified a s requester x).1
    listeners := (notified a s requester x).2.1 } rfl rfl rfl rfl ?_
  intro n hn
  obtain ⟨hnone, hconcerns⟩ := ListenerSet.concerns_of_mem_call hn
  exact ⟨hnone, fun t ht => hconcerns t ht ▸ hlive⟩

/-- After a join has come by a session, no event is left to report. -/
lemma Silent.attachAndAnnounce (a : Authority η) {s : State η} (requester : PeerAddress)
    {x : Session} (hlive : s.registry.IsLive x.token) :
    Silent s (a.attachAndAnnounce s requester x) := by
  have hattached := (Silent.attach s x.token requester).trans
    (Silent.log _ (.peerAuthenticated requester x.identity x.token))
  refine hattached.trans (Silent.announce a requester ?_)
  rw [Registry.IsLive, Registry.tokens, hattached.bindings]
  exact hlive

/-! ## The two shapes of an effect -/

/-- The token of the session that is opened next. -/
def Authority.nextToken (a : Authority η) (s : State η) : SessionToken :=
  s.registry.freshToken (a.draw s.drawn)

/-- A section that is entered with this registry may open a session of this binding: either it is
asked to, or a verified device has no session yet. -/
def Section.Opens (r : Registry) (b : Binding) : Section → Prop
  | .whole call => ∃ properties, call = .create b.machineId b.identity b.conferenceName properties
  | .precheck _ _ => False
  | .commit q _ g => ∃ v, g = .verified v ∧ r.findByIdentity? q.machineId v.identity = none ∧
      b.machineId = q.machineId ∧ b.identity = v.identity

/-- What a move may do to the bindings and the tokens, and what it reports.  The move enters the
section `entered`, if it enters one. -/
inductive Shift (a : Authority η) (entered : Option Section) (s s' : State η) : Prop
  /-- Some sessions may be gone, and only of these the sink hears. -/
  | shrunk (bindings : s'.registry.bindings.Sublist s.registry.bindings)
      (drawn : s'.drawn = s.drawn)
      (events : ∃ more, s'.events = s.events ++ more ∧
        ∀ e ∈ more, ∃ x ∈ s.registry.sessions, ∃ reason, e.2.2 = Event.removal x reason)
  /-- One session is opened under the next token, and the sink hears of it. -/
  | opened (b : Binding) (permitted : ∃ pending, entered = some pending ∧
        pending.Opens s.registry b) (properties : TextMap)
      (bindings : s'.registry.bindings = s.registry.bindings ++ [b])
      (token : b.token = a.nextToken s) (createdAt : b.createdAt = s.now)
      (drawn : s'.drawn = s.drawn + 1)
      (events : s'.events = s.events ++
        s.reported (.created b.token b.identity b.machineId properties))

/-- All that is told of sessions tells of such as are live before or after. -/
def Discreet (s s' : State η) : Prop :=
  ∃ more, s'.trace = s.trace ++ more ∧ ∀ e ∈ more, ∀ t, e.2.Concerns t →
    s.registry.IsLive t ∨ s'.registry.IsLive t

/-- What a move may do. -/
structure Effect (a : Authority η) (entered : Option Section) (s s' : State η) : Prop where
  shift : Shift a entered s s'
  discreet : Discreet s s'
  sink : s'.registry.sink = s.registry.sink ∨ ∃ sink, entered = some (.whole (.setSink sink))

namespace Effect

variable {a : Authority η} {entered : Option Section} {s s' s'' : State η}

/-- Silence is the effect of removing nothing. -/
lemma ofSilent (h : Silent s s') : Effect a entered s s' := by
  obtain ⟨more, htrace, hmore⟩ := h.trace
  have hevents : ∃ new, s'.events = s.events ++ new ∧
      ∀ e ∈ new, ∃ x ∈ s.registry.sessions, ∃ reason, e.2.2 = Event.removal x reason :=
    ⟨[], by simp [h.events], by simp⟩
  refine ⟨.shrunk (by rw [h.bindings]) h.drawn hevents, ⟨more, htrace, ?_⟩, .inl h.sink⟩
  exact fun e he t ht => .inl ((hmore e he).2 t ht)

/-- Silence after an effect leaves it as it is. -/
lemma thenSilent (h : Effect a entered s s') (h' : Silent s' s'') : Effect a entered s s'' := by
  refine ⟨?_, ?_, h.sink.imp_left h'.sink.trans⟩
  · cases h.shift with
    | shrunk bindings drawn events =>
      exact .shrunk (h'.bindings ▸ bindings) (h'.drawn.trans drawn) (h'.events ▸ events)
    | opened b permitted properties bindings token createdAt drawn events =>
      exact .opened b permitted properties (h'.bindings.trans bindings) token createdAt
        (h'.drawn.trans drawn) (h'.events.trans events)
  · obtain ⟨more, htrace, hmore⟩ := h.discreet
    obtain ⟨more', htrace', hmore'⟩ := h'.trace
    have hlive : ∀ t, s''.registry.IsLive t ↔ s'.registry.IsLive t := fun t => by
      simp only [Registry.IsLive, Registry.tokens, h'.bindings]
    refine ⟨more ++ more', by rw [htrace', htrace, List.append_assoc], ?_⟩
    intro e he t ht
    rcases List.mem_append.mp he with he | he
    · exact (hmore e he t ht).imp_right (hlive t).mpr
    · exact .inr ((hlive t).mpr ((hmore' e he).2 t ht))

/-- An operation that removes sessions and reports them. -/
lemma ofRemoval {α : Type} {o : Registry.Outcome α} (gone : List Session) (reason : RemovalReason)
    (bindings : o.registry.bindings.Sublist s.registry.bindings)
    (sink : o.registry.sink = s.registry.sink)
    (hgone : ∀ x ∈ gone, x ∈ s.registry.sessions)
    (hnotices : ∀ n ∈ o.notices, (n.event? = none ∧ ∀ t, ¬ n.Concerns t) ∨
      ∃ x ∈ gone, n ∈ s.registry.report (Event.removal x reason)) :
    Effect a entered s (Authority.afterOperation s o) := by
  refine ⟨?_, ?_, .inl sink⟩
  · refine .shrunk bindings rfl ⟨_, State.events_note _ _, ?_⟩
    intro e he
    obtain ⟨e', he', rfl⟩ := List.mem_map.mp he
    obtain ⟨n, hn, hevent⟩ := List.mem_filterMap.mp he'
    rcases hnotices n hn with ⟨hnone, -⟩ | ⟨x, hx, hreport⟩
    · rw [hnone] at hevent
      exact absurd hevent (by simp)
    · refine ⟨x, hgone x hx, reason, ?_⟩
      unfold Registry.report Event.reportedTo at hreport
      split at hreport
      · rw [List.mem_singleton.mp hreport] at hevent
        exact (congrArg Prod.snd (Option.some.inj hevent)).symm
      · rw [List.mem_singleton.mp hreport] at hevent
        exact absurd hevent (by simp [Notice.event?])
  · refine ⟨_, rfl, ?_⟩
    intro e he t ht
    obtain ⟨n, hn, rfl⟩ := List.mem_map.mp he
    rcases hnotices n hn with ⟨-, hnot⟩ | ⟨x, hx, hreport⟩
    · exact (hnot t ht).elim
    · have htoken : x.token = t := Registry.eq_of_report_concerns hreport ht
      exact .inl (htoken ▸ Registry.isLive_of_mem (Registry.binding_mem (hgone x hx)))

/-! ### Removals -/

/-- A removal by token leaves the other bindings and reports the session that it takes. -/
lemma destroy (s : State η) (token : SessionToken) :
    Effect a entered s (Authority.afterOperation s (s.registry.destroy token)) := by
  have hbindings := Registry.bindings_destroy_sublist s.registry token
  have hsink := Registry.sink_destroy s.registry token
  cases hget : s.registry.get? token with
  | none =>
    refine ofRemoval [] .destroyed hbindings hsink (by simp) ?_
    simp [Registry.destroy, hget]
  | some x =>
    refine ofRemoval [x] .destroyed hbindings hsink ?_ ?_
    · simpa using (Registry.get?_eq_some hget).1
    · intro n hn
      simp only [Registry.destroy, hget, List.mem_cons] at hn
      rcases hn with rfl | hn
      · exact .inl ⟨rfl, fun t ht => ht⟩
      · exact .inr ⟨x, List.mem_singleton_self x, hn⟩

/-- A removal of several sessions leaves a sublist of the bindings and reports what it takes. -/
lemma removeWhere (s : State η) (reason : RemovalReason) (doomed : Session → Bool) :
    Effect a entered s (Authority.afterOperation s (s.registry.removeWhere reason doomed)) := by
  refine ofRemoval (s.registry.sessions.filter doomed) reason
    (Registry.bindings_removeWhere_sublist ..) (Registry.sink_removeWhere ..)
    (fun x hx => (List.mem_filter.mp hx).1) ?_
  intro n hn
  unfold Registry.removeWhere at hn
  split at hn
  · split at hn
    · simp at hn
    · rw [List.mem_singleton.mp hn]
      exact .inl ⟨rfl, fun t ht => ht⟩
  · obtain ⟨x, hx, hn⟩ := List.mem_flatMap.mp hn
    rcases List.mem_cons.mp hn with rfl | hn
    · exact .inl ⟨rfl, fun t ht => ht⟩
    · exact .inr ⟨x, hx, hn⟩

/-! ### Openings -/

/-- A registry that has one more session, under the next token, and has reported it. -/
lemma opening (s : State η) (b : Binding) (pending : Section)
    (permitted : pending.Opens s.registry b) (r' : Registry) (properties : TextMap)
    (bindings : r'.bindings = s.registry.bindings ++ [b]) (sink : r'.sink = s.registry.sink)
    (token : b.token = a.nextToken s) (createdAt : b.createdAt = s.now)
    (records : List Log.Record) :
    Effect a (some pending) s ({ s with registry := r', drawn := s.drawn + 1 }.note
      (records.map Notice.record ++
        s.registry.report (.created b.token b.identity b.machineId properties))) := by
  refine ⟨.opened b ⟨pending, rfl, permitted⟩ properties bindings token createdAt rfl ?_,
    ⟨_, rfl, ?_⟩, .inl sink⟩
  · rw [State.events_note, List.filterMap_append, Notice.filterMap_event?_records, List.nil_append]
    exact congrArg (s.events ++ ·) (State.map_report s _)
  · intro e he t ht
    obtain ⟨n, hn, rfl⟩ := List.mem_map.mp he
    rcases List.mem_append.mp hn with hn | hn
    · obtain ⟨record, -, rfl⟩ := List.mem_map.mp hn
      exact ht.elim
    · have htoken : b.token = t := Registry.eq_of_report_concerns hn ht
      have hmem : b ∈ r'.bindings := by simp [bindings]
      exact .inr (htoken ▸ Registry.isLive_of_mem hmem)

end Effect

/-! ## Calls -/

namespace Authority

variable (a : Authority η) (s : State η)

/-- A logout has an effect of the second shape. -/
lemma logout_effect (entered : Option Section) (token : SessionToken) :
    Effect a entered s (a.logout s token).1 := by
  unfold logout
  split
  · exact .ofSilent (.refl s)
  · exact .destroy s token

/-- A call that is done in one section opens one session or removes some. -/
lemma runWhole_effect (call : Call) :
    Effect a (some (.whole call)) s (a.runWhole s call).1 := by
  cases call with
  | logout token => exact a.logout_effect s _ token
  | conferenceEnded name =>
    exact (Effect.removeWhere s _ _).thenSilent (.ofUnchanged (purgeEnded_unchanged s name))
  | create machineId identity conferenceName properties =>
    exact .opening s ⟨a.nextToken s, machineId, identity, conferenceName, s.now⟩
      (.whole (.create machineId identity conferenceName properties)) ⟨properties, rfl⟩ _
      properties (Registry.bindings_create s.registry s.now (a.draw s.drawn) machineId identity
        conferenceName properties) rfl rfl rfl _
  | attach token peer => exact .ofSilent (.attach s token peer)
  | destroy token => exact .destroy s token
  | purge name => exact .removeWhere s _ _
  | sweep offset lifetime => exact .removeWhere s _ _
  | setSink sink =>
    refine ⟨.shrunk (List.Sublist.refl _) rfl ⟨[], ?_, by simp⟩, ⟨[], ?_, by simp⟩,
      .inr ⟨sink, rfl⟩⟩
    · exact (List.append_nil _).symm
    · exact (List.append_nil _).symm
  | join | lookup | session | sessionText | sessionCount | findByIdentity | findByPeer
  | registryText => exact .ofSilent (.refl s)

/-- A session that is found for a join removes nothing; one that is opened is an effect of the first
shape. -/
lemma takeSeat_effect {q : JoinRequest} {g : Join.Grant} {st : Join.Seat}
    (requester : PeerAddress) (h : Join.Seated s.registry s.now (a.draw s.drawn) q g st) :
    Effect a (some (.commit q requester g)) s (takeSeat s st) := by
  cases h with
  | trusted x _ => exact .ofSilent ⟨rfl, rfl, rfl, [], rfl, by simp⟩
  | found v x _ _ _ => exact .ofSilent ⟨rfl, rfl, rfl, [], rfl, by simp⟩
  | opened v none r' bindings sink notices reports =>
    subst reports
    exact .opening s (Join.newBinding s.now (a.nextToken s) q v)
      (.commit q requester (.verified v)) ⟨v, rfl, none, rfl, rfl⟩ r' v.properties bindings sink
      rfl rfl _

/-- A commit that comes by no session changes nothing; after it has come by one, no sink hears of
anything. -/
lemma enterCommit_cases (q : JoinRequest) (requester : PeerAddress) (g : Join.Grant) :
    Unchanged s (a.enterCommit s q requester g).1 ∨
      ∃ st, Join.Seated s.registry s.now (a.draw s.drawn) q g st ∧
        Silent (takeSeat s st) (a.enterCommit s q requester g).1 := by
  cases hseat : Join.seat s.registry s.now (a.draw s.drawn) q g with
  | error e =>
    rw [a.enterCommit_of_seat_eq_error requester hseat]
    exact .inl (.log s e.2)
  | ok st =>
    have hseated := Join.seated_of_seat_eq_ok hseat
    obtain ⟨x, hx⟩ := Registry.isLive_iff_get?.mp hseated.isLive
    have hlive : st.registry.IsLive x.token :=
      Registry.isLive_of_mem (Registry.binding_mem (Registry.get?_eq_some hx).1)
    rw [a.enterCommit_of_seat_eq_ok requester hseat hx]
    exact .inr ⟨st, hseated, .attachAndAnnounce a requester hlive⟩

/-- A commit opens one session or none. -/
lemma enterCommit_effect (q : JoinRequest) (requester : PeerAddress) (g : Join.Grant) :
    Effect a (some (.commit q requester g)) s (a.enterCommit s q requester g).1 := by
  rcases a.enterCommit_cases s q requester g with hunchanged | ⟨st, hseated, hsilent⟩
  · exact .ofSilent (.ofUnchanged hunchanged)
  · exact (a.takeSeat_effect s requester hseated).thenSilent hsilent

/-- A section of a call opens one session or removes some. -/
lemma enter_effect (pending : Section) : Effect a (some pending) s (a.enter s pending).1 := by
  cases pending with
  | whole call => exact a.runWhole_effect s call
  | precheck q requester => exact .ofSilent (.ofUnchanged (a.enterPrecheck_unchanged s q requester))
  | commit q requester g => exact a.enterCommit_effect s q requester g

/-- What a verifier is asked has no effect. -/
lemma enterAndConsult_effect (pending : Section) (registryFree : Bool) :
    Effect a (some pending) s (a.enterAndConsult s pending registryFree).1 :=
  (a.enter_effect s pending).thenSilent
    (.ofUnchanged (a.enterAndConsult_unchanged s pending registryFree))

end Authority

/-! ## Moves -/

/-- **What one move can do.** -/
theorem World.step_effect (a : Authority η) (w : World η) (m : Move) :
    Effect a (m.entered? w) w.state (w.step a m).state := by
  have hturn := w.turn a m
  generalize m.entered? w = entered, (w.step a m).state = s' at hturn ⊢
  cases hturn with
  | entered n registryFree pending => exact a.enterAndConsult_effect w.state pending registryFree
  | swept sweeper _ _ rest =>
    exact (Effect.removeWhere w.state _ _).thenSilent (.ofUnchanged rest)
  | purged hook channel name _ _ rest =>
    exact (Effect.removeWhere w.state _ _).thenSilent (.ofUnchanged rest)
  | waited nanos => exact .ofSilent ⟨rfl, rfl, rfl, [], by simp, by simp⟩
  | relisted change => exact .ofSilent ⟨rfl, rfl, rfl, [], by simp, by simp⟩
  | idle _ _ _ _ unchanged => exact .ofSilent (.ofUnchanged unchanged)

end Admittance
