import Admittance.Proofs.Guarded

/-!
# What is told of sessions, and who has removed them

Five kinds of callers remove sessions: a logout and a removal by name take one session, a purge, a
sweep and the end of a conference take all that they are meant for.  Each of them answers for the
sessions that it took, in its own way.  `Authority.credits` and `Move.credits` collect these
answers, every token with the reason that the caller stands for.

`Told` is what every move does to the list of bindings, as one fact with what it tells of it: it
opens one session and tells of its creation, or it removes the sessions that are doomed, tells of
each of their removals, and is credited with exactly these.  What it does holds with any sink; what
it tells is known of a sink that takes every event (`Registry.Records`), for a fragile one breaks
down instead.
-/

namespace Admittance

variable {η : Type}

/-! ## Events -/

/-- The event of a session's creation. -/
def Binding.creation (b : Binding) (properties : TextMap) : Event :=
  .created b.token b.identity b.machineId properties

/-- The event of a session's removal. -/
def Binding.removal (b : Binding) (reason : RemovalReason) : Event :=
  .destroyed b.token b.identity b.machineId reason

/-- The event of a creation is about the token of its binding. -/
@[simp] lemma Binding.token_creation (b : Binding) (properties : TextMap) :
    (b.creation properties).token = b.token := rfl

/-- All events that a sink has taken, in order. -/
def State.chronicle (s : State η) : List Event := s.events.map fun entry => entry.2.2

/-- Events come to those that were reported before. -/
lemma State.chronicle_note (s : State η) (notices : List Notice) :
    (s.note notices).chronicle =
      s.chronicle ++ (notices.filterMap Notice.event?).map Prod.snd := by
  rw [chronicle, State.events_note, List.map_append, List.map_map]
  rfl

/-- There is a sink, and it takes every event. -/
def Registry.Records (r : Registry) : Prop := ∃ sink, r.sink = some sink ∧ sink.fragile = false

namespace Registry

variable {r : Registry}

/-- What is reported is recorded. -/
lemma Records.report (h : r.Records) (e : Event) :
    ((r.report e).filterMap Notice.event?).map Prod.snd = [e] := by
  obtain ⟨sink, hsink, -⟩ := h
  simp only [Registry.report, Event.reportedTo, hsink]
  rfl

/-- A sink that takes every event does not break down. -/
lemma Records.not_fragile (h : r.Records) : r.sinkIsFragile = false := by
  obtain ⟨sink, hsink, hfragile⟩ := h
  simp only [sinkIsFragile, hsink, hfragile]

/-- Every removal is reported, one after the other, whatever is logged of it. -/
lemma Records.removals (h : r.Records) (record : Session → Log.Record) (reason : RemovalReason)
    (gone : List Session) :
    ((gone.flatMap fun x => .record (record x) :: r.report (Event.removal x reason)).filterMap
      Notice.event?).map Prod.snd = gone.map (Event.removal · reason) := by
  induction gone with
  | nil => rfl
  | cons x gone ih =>
    have hx := h.report (Event.removal x reason)
    rw [List.flatMap_cons, List.filterMap_append, List.map_append, ih]
    simp only [List.filterMap_cons, Notice.event?, hx, List.map_cons, List.singleton_append]

/-! ### Sessions and their bindings -/

/-- A session is the only one of its token. -/
lemma filter_token_eq {x : Session} (hx : x ∈ r.sessions) :
    r.sessions.filter (·.token = x.token) = [x] :=
  filter_key_eq Session.token r.tokens_nodup hx

/-- A removal by name takes the sessions of the token, of which there is one or none. -/
lemma destroy_eq (r : Registry) (t : SessionToken) :
    r.destroy t =
      { registry := r.restrict (r.sessions.filter (·.token ≠ t)) List.filter_sublist
        value := (r.get? t).isSome
        notices := (r.sessions.filter (·.token = t)).flatMap fun x =>
          .record (.sessionDestroyed x) :: r.report (Event.removal x .destroyed) } := by
  cases hget : r.get? t with
  | none =>
    have hnone : ∀ x ∈ r.sessions, ¬ decide (x.token = t) = true := List.find?_eq_none.mp hget
    have hall : r.sessions.filter (·.token ≠ t) = r.sessions :=
      List.filter_eq_self.mpr fun x hx => decide_eq_true fun ht => hnone x hx (decide_eq_true ht)
    simp only [destroy, hget, restrict, hall, List.filter_eq_nil_iff.mpr hnone]
    rfl
  | some x =>
    obtain ⟨hx, rfl⟩ := get?_eq_some hget
    simp only [destroy, hget, filter_token_eq hx, List.flatMap_singleton]
    rfl

/-- A removal by name takes the token, if it is one. -/
lemma map_token_filter (r : Registry) (t : SessionToken) :
    (r.sessions.filter (·.token = t)).map Session.token =
      if (r.destroy t).value then [t] else [] := by
  rw [destroy_eq]
  cases hget : r.get? t with
  | none => rw [List.filter_eq_nil_iff.mpr (List.find?_eq_none.mp hget)]; rfl
  | some x =>
    obtain ⟨hx, rfl⟩ := get?_eq_some hget
    rw [filter_token_eq hx]
    rfl

/-- To take one session out is to leave those with another token. -/
lemma erase_eq_filter {x : Session} (hx : x ∈ r.sessions) :
    r.sessions.erase x = r.sessions.filter fun y => !decide (y.token = x.token) := by
  have hnodup : r.sessions.Nodup := r.tokens_nodup.of_map
  rw [hnodup.erase_eq_filter]
  refine List.filter_congr fun y hy => ?_
  have hyx : y.token = x.token ↔ y = x := ⟨session_eq hy hx, congrArg Session.token⟩
  rw [decide_eq_decide.mpr hyx, bne, beq_eq_decide]

/-- The binding is the one of a session that is chosen. -/
def isBound (r : Registry) (chosen : Session → Bool) (b : Binding) : Bool :=
  b ∈ (r.sessions.filter chosen).map Session.binding

/-- A session is known by its binding. -/
lemma isBound_binding (chosen : Session → Bool) {x : Session} (hx : x ∈ r.sessions) :
    r.isBound chosen x.binding = chosen x := by
  rw [Bool.eq_iff_iff, isBound, decide_eq_true_eq, List.mem_map]
  constructor
  · rintro ⟨y, hy, hxy⟩
    obtain ⟨hmem, hchosen⟩ := List.mem_filter.mp hy
    exact session_eq hmem hx (congrArg Binding.token hxy) ▸ hchosen
  · intro hchosen
    exact ⟨x, List.mem_filter.mpr ⟨hx, hchosen⟩, rfl⟩

/-- The bindings of chosen sessions are chosen by what they are bound to. -/
lemma filter_isBound (r : Registry) (chosen : Session → Bool) :
    r.bindings.filter (r.isBound chosen) = (r.sessions.filter chosen).map Session.binding := by
  rw [bindings, List.filter_map]
  exact congrArg (List.map _) (List.filter_congr fun x hx => isBound_binding chosen hx)

/-- The bindings of all other sessions are the others. -/
lemma filter_not_isBound (r : Registry) (chosen : Session → Bool) :
    r.bindings.filter (fun b => !r.isBound chosen b) =
      (r.sessions.filter fun x => !chosen x).map Session.binding := by
  rw [bindings, List.filter_map]
  refine congrArg (List.map _) (List.filter_congr fun x hx => ?_)
  exact congrArg (!·) (isBound_binding chosen hx)

end Registry

/-! ## Credit -/

/-- The sessions that a removal took, with its reason. -/
def Registry.Removal.credits (removal : Registry.Removal) (reason : RemovalReason) :
    List (SessionToken × RemovalReason) :=
  removal.tokens.map fun t => (t, reason)

/-- The removals that the answer to a call takes credit for: a logout that succeeds, a removal by
name that found its session, and every session in the answer of a purge or of a sweep. -/
def Call.credits : Call → Answer → List (SessionToken × RemovalReason)
  | .logout token, .logout (.ok _) => [(token, .destroyed)]
  | .destroy token, .flag true => [(token, .destroyed)]
  | .purge _, .tokens tokens => tokens.map fun t => (t, .conferenceEnded)
  | .sweep _ _, .tokens tokens => tokens.map fun t => (t, .expired)
  | _, _ => []

/-- The removals that a call takes credit for when it holds the registry in this state.  The end of
a conference is answered without a word; it is credited with what its purge took. -/
def Authority.credits (a : Authority η) (s : State η) :
    Call → List (SessionToken × RemovalReason)
  | .conferenceEnded name => (s.registry.purge name).value.credits .conferenceEnded
  | call => call.credits (a.runWhole s call).2

/-- The removals that a move takes credit for in this world.  A sweeper and the hook answer nobody;
they are credited with what they took. -/
def Move.credits (a : Authority η) (w : World η) (m : Move) :
    List (SessionToken × RemovalReason) :=
  match m.entered? w, m with
  | some (.whole call), _ => a.credits w.state call
  | _, .sweep sweeper =>
    if sweeper.isAwake then
      (w.state.registry.sweep w.state.now sweeper.lifetime).value.credits .expired
    else []
  | _, .receive hook channel =>
    match hook.ended? a.config.destroyOnConferenceEnd channel with
    | some name => (w.state.registry.purge name).value.credits .conferenceEnded
    | none => []
  | _, _ => []

/-! ## What a move does and tells -/

/-- What a move does to the bindings, what it tells a sink of it that takes every event, and what it
takes credit for. -/
inductive Told (a : Authority η) (s s' : State η) : List (SessionToken × RemovalReason) → Prop
  /-- One session is opened under the next token. -/
  | opened (b : Binding) (properties : TextMap)
      (bindings : s'.registry.bindings = s.registry.bindings ++ [b])
      (token : b.token = a.nextToken s) (drawn : s'.drawn = s.drawn + 1)
      (chronicle : s.registry.Records →
        s'.chronicle = s.chronicle ++ [b.creation properties]) :
      Told a s s' []
  /-- The sessions that are doomed are removed, perhaps none. -/
  | removed (doomed : Binding → Bool) (reason : RemovalReason)
      (bindings : s'.registry.bindings = s.registry.bindings.filter fun b => !doomed b)
      (drawn : s'.drawn = s.drawn)
      (chronicle : s.registry.Records → s'.chronicle =
        s.chronicle ++ (s.registry.bindings.filter doomed).map (·.removal reason)) :
      Told a s s' ((s.registry.bindings.filter doomed).map fun b => (b.token, reason))

namespace Told

variable {a : Authority η} {s s' s'' : State η} {credits : List (SessionToken × RemovalReason)}

/-- Nothing happens to the bindings, and nobody hears of anything. -/
lemma ofSame (bindings : s'.registry.bindings = s.registry.bindings) (drawn : s'.drawn = s.drawn)
    (events : s'.events = s.events) : Told a s s' [] := by
  have hnone : s.registry.bindings.filter (fun _ => false) = [] := by simp
  have hremoved : Told a s s' ((s.registry.bindings.filter fun _ => false).map
      fun b => (b.token, RemovalReason.destroyed)) := by
    refine .removed (fun _ => false) .destroyed ?_ drawn fun _ => ?_
    · simp [bindings]
    · rw [hnone, List.map_nil, List.append_nil, State.chronicle, events, State.chronicle]
  rwa [hnone, List.map_nil] at hremoved

/-- What no sink hears of is told as nothing. -/
lemma ofSilent (h : Silent s s') : Told a s s' [] := ofSame h.bindings h.drawn h.events

/-- Silence afterwards makes no difference. -/
lemma thenSilent (h : Told a s s' credits) (h' : Silent s' s'') : Told a s s'' credits := by
  have hchronicle : s''.chronicle = s'.chronicle := by
    rw [State.chronicle, h'.events, State.chronicle]
  cases h with
  | opened b properties bindings token drawn chronicle =>
    exact .opened b properties (h'.bindings.trans bindings) token (h'.drawn.trans drawn)
      fun hrecords => hchronicle.trans (chronicle hrecords)
  | removed doomed reason bindings drawn chronicle =>
    exact .removed doomed reason (h'.bindings.trans bindings) (h'.drawn.trans drawn)
      fun hrecords => hchronicle.trans (chronicle hrecords)

/-! ### Removals -/

/-- An operation that removes the chosen sessions and reports each of them. -/
lemma ofRemoval {α : Type} {o : Registry.Outcome α} (chosen : Session → Bool)
    (reason : RemovalReason)
    (sessions : o.registry.sessions = s.registry.sessions.filter fun x => !chosen x)
    (notices : s.registry.Records → (o.notices.filterMap Notice.event?).map Prod.snd =
      (s.registry.sessions.filter chosen).map (Event.removal · reason)) :
    Told a s (Authority.afterOperation s o)
      ((s.registry.sessions.filter chosen).map fun x => (x.token, reason)) := by
  have hgone := s.registry.filter_isBound chosen
  have hremoved : Told a s (Authority.afterOperation s o)
      ((s.registry.bindings.filter (s.registry.isBound chosen)).map
        fun b => (b.token, reason)) := by
    refine .removed (s.registry.isBound chosen) reason ?_ rfl fun hrecords => ?_
    · rw [s.registry.filter_not_isBound chosen, ← sessions]
      rfl
    · rw [Authority.afterOperation, State.chronicle_note, notices hrecords, hgone, List.map_map]
      rfl
  rwa [hgone, List.map_map] at hremoved

/-- A removal by token tells of the session that it takes, and is credited with it. -/
lemma destroy (s : State η) (token : SessionToken) :
    Told a s (Authority.afterOperation s (s.registry.destroy token))
      (if (s.registry.destroy token).value then [(token, .destroyed)] else []) := by
  have hcredits : (s.registry.sessions.filter (·.token = token)).map
      (fun x => (x.token, RemovalReason.destroyed)) =
        if (s.registry.destroy token).value then [(token, .destroyed)] else [] := by
    have htokens := congrArg (List.map fun t => (t, RemovalReason.destroyed))
      (s.registry.map_token_filter token)
    rw [List.map_map] at htokens
    refine htokens.trans ?_
    split <;> rfl
  rw [← hcredits]
  refine ofRemoval (·.token = token) .destroyed ?_ fun hrecords => ?_
  · simp only [Registry.destroy_eq, Registry.restrict, ne_eq, decide_not]
  · rw [Registry.destroy_eq]
    exact hrecords.removals Log.Record.sessionDestroyed .destroyed _

/-- A removal of several sessions tells of all that it takes, and is credited with these. -/
lemma removeWhere (s : State η) (reason : RemovalReason) (doomed : Session → Bool) :
    Told a s (Authority.afterOperation s (s.registry.removeWhere reason doomed))
      ((s.registry.removeWhere reason doomed).value.credits reason) := by
  cases hcompleted : (s.registry.removeWhere reason doomed).value.completed with
  | true =>
    rw [Registry.removeWhere_of_completed hcompleted, Registry.Removal.credits, List.map_map]
    exact ofRemoval doomed reason rfl fun hrecords =>
      hrecords.removals (Log.Record.sessionRemoved · reason) reason _
  | false =>
    -- The removal ends at its first session, and nobody hears of it.
    have hfragile := Registry.sinkIsFragile_of_not_completed hcompleted
    cases hfind : s.registry.sessions.find? doomed with
    | none => simp [Registry.removeWhere, hfragile, hfind] at hcompleted
    | some x =>
      have hx : x ∈ s.registry.sessions := List.mem_of_find?_eq_some hfind
      have hremove : s.registry.removeWhere reason doomed =
          ⟨s.registry.restrict (s.registry.sessions.erase x) List.erase_sublist,
            ⟨[x.token], false⟩, [.record (.sessionRemoved x reason)]⟩ := by
        simp only [Registry.removeWhere, hfragile, if_true, hfind]
      rw [hremove]
      have hremoval : Told a s (Authority.afterOperation s ⟨s.registry.restrict
          (s.registry.sessions.erase x) List.erase_sublist, (⟨[x.token], false⟩ :
            Registry.Removal), [.record (.sessionRemoved x reason)]⟩)
          ((s.registry.sessions.filter (·.token = x.token)).map fun y => (y.token, reason)) := by
        refine ofRemoval (·.token = x.token) reason (Registry.erase_eq_filter hx) ?_
        intro hrecords
        exact absurd (hrecords.not_fragile.symm.trans hfragile) (by simp)
      rwa [Registry.filter_token_eq hx] at hremoval

/-! ### Openings -/

/-- A registry that has one more session, under the next token, and has reported it. -/
lemma opening (s : State η) (b : Binding) (r' : Registry) (properties : TextMap)
    (bindings : r'.bindings = s.registry.bindings ++ [b]) (token : b.token = a.nextToken s)
    (records : List Log.Record) :
    Told a s ({ s with registry := r', drawn := s.drawn + 1 }.note
      (records.map Notice.record ++ s.registry.report (b.creation properties))) [] := by
  refine .opened b properties bindings token rfl fun hrecords => ?_
  rw [State.chronicle_note, List.filterMap_append, Notice.filterMap_event?_records,
    List.nil_append, hrecords.report]
  rfl

end Told

/-! ## Calls -/

namespace Authority

variable (a : Authority η) (s : State η)

/-- A logout is credited with its session if it wins. -/
lemma logout_told (token : SessionToken) :
    Told a s (a.logout s token).1
      (Call.credits (.logout token) (.logout (a.logout s token).2)) := by
  cases hget : s.registry.get? token with
  | none =>
    simp only [logout, hget, Call.credits]
    exact .ofSilent (.refl s)
  | some x =>
    have hdestroy := Told.destroy (a := a) s token
    have hfound : (s.registry.destroy token).value = true := by
      simp only [Registry.destroy, hget]
    rw [hfound, if_pos rfl] at hdestroy
    simpa only [logout, hget, Call.credits] using hdestroy

/-- A call that is done in one section tells of what it does, and is credited with what it
removes. -/
lemma runWhole_told (call : Call) : Told a s (a.runWhole s call).1 (a.credits s call) := by
  cases call with
  | logout token => exact a.logout_told s token
  | conferenceEnded name =>
    exact (Told.removeWhere s _ _).thenSilent (.ofUnchanged (purgeEnded_unchanged s name))
  | create machineId identity conferenceName properties =>
    exact .opening s ⟨a.nextToken s, machineId, identity, conferenceName, s.now⟩ _ properties
      (Registry.bindings_create s.registry s.now (a.draw s.drawn) machineId identity
        conferenceName properties) rfl _
  | attach token peer => exact .ofSilent (.attach s token peer)
  | destroy token =>
    have hdestroy := Told.destroy (a := a) s token
    cases hfound : (s.registry.destroy token).value with
    | true =>
      rw [hfound, if_pos rfl] at hdestroy
      simpa only [runWhole, credits, hfound, Call.credits] using hdestroy
    | false =>
      rw [hfound, if_neg Bool.false_ne_true] at hdestroy
      simpa only [runWhole, credits, hfound, Call.credits] using hdestroy
  | purge name => exact .removeWhere s _ _
  | sweep offset lifetime => exact .removeWhere s _ _
  | setSink sink => exact .ofSame rfl rfl rfl
  | join | lookup | session | sessionText | sessionCount | findByIdentity | findByPeer
  | registryText => exact .ofSilent (.refl s)

/-- A session that is opened for a join is told of, and nothing is removed. -/
lemma takeSeat_told {q : JoinRequest} {g : Join.Grant} {st : Join.Seat}
    (h : Join.Seated s.registry s.now (a.draw s.drawn) q g st) : Told a s (takeSeat s st) [] := by
  cases h with
  | trusted x _ => exact .ofSilent (.ofUnchanged ⟨[], rfl, by simp⟩)
  | found v x _ _ _ => exact .ofSilent (.ofUnchanged ⟨[], rfl, by simp⟩)
  | opened v none r' bindings sink notices reports =>
    subst reports
    exact .opening s (Join.newBinding s.now (a.nextToken s) q v) r' v.properties bindings rfl _

/-- A commit removes nothing. -/
lemma enterCommit_told (q : JoinRequest) (requester : PeerAddress) (g : Join.Grant) :
    Told a s (a.enterCommit s q requester g).1 [] := by
  rcases a.enterCommit_cases s q requester g with hunchanged | ⟨st, hseated, hsilent⟩
  · exact .ofSilent (.ofUnchanged hunchanged)
  · exact (a.takeSeat_told s hseated).thenSilent hsilent

end Authority

/-! ## Moves -/

/-- **What one move does and tells.** -/
theorem World.step_told (a : Authority η) (w : World η) (m : Move) :
    Told a w.state (w.step a m).state (m.credits a w) := by
  have hturn := w.turn a m
  unfold Move.credits
  generalize m.entered? w = entered, (w.step a m).state = s' at hturn ⊢
  cases hturn with
  | entered n registryFree pending =>
    have hconsult := Silent.ofUnchanged (a.enterAndConsult_unchanged w.state pending registryFree)
    cases pending with
    | whole call => exact (a.runWhole_told w.state call).thenSilent hconsult
    | precheck q requester =>
      exact .ofSilent ((Silent.ofUnchanged (a.enterPrecheck_unchanged w.state q requester)).trans
        hconsult)
    | commit q requester g => exact (a.enterCommit_told w.state q requester g).thenSilent hconsult
  | swept sweeper awake _ rest =>
    simp only [awake, if_true]
    exact (Told.removeWhere w.state _ _).thenSilent (.ofUnchanged rest)
  | purged hook channel name ended _ rest =>
    simp only [ended]
    exact (Told.removeWhere w.state _ _).thenSilent (.ofUnchanged rest)
  | waited | relisted => exact .ofSame rfl rfl rfl
  | idle _ asleep unended _ unchanged =>
    have hnothing := Told.ofSilent (a := a) (.ofUnchanged unchanged)
    cases m with
    | sweep sweeper => simpa only [asleep sweeper rfl, Bool.false_eq_true, if_false] using hnothing
    | receive hook channel => simpa only [unended hook channel rfl] using hnothing
    | arrive | enter | answer | abandon | wait | relist => exact hnothing

/-! ## Runs -/

namespace Run

variable {ρ : Run η} {k : Nat}

/-- All events that a sink has taken before the move of number `k`. -/
def chronicle (ρ : Run η) (k : Nat) : List Event := (ρ.world k).state.chronicle

/-- The removals that move `k` takes credit for. -/
def creditsAt (ρ : Run η) (k : Nat) : List (SessionToken × RemovalReason) :=
  match ρ.moves[k]? with
  | some m => m.credits ρ.authority (ρ.world k)
  | none => []

/-- All removals that the first `k` moves take credit for. -/
def credits (ρ : Run η) (k : Nat) : List (SessionToken × RemovalReason) :=
  (List.range k).flatMap ρ.creditsAt

/-- The run starts without sessions, and from its start on there is one sink that takes every
event. -/
structure Recorded (ρ : Run η) : Prop where
  empty : ρ.start.registry.sessions = []
  unheard : ρ.start.events = []
  records : ρ.start.registry.Records
  kept : ∀ m ∈ ρ.moves, m.isSinkChange = false

/-- Every move tells of what it does, and is credited with what it removes. -/
lemma told (ρ : Run η) (k : Nat) :
    Told ρ.authority (ρ.world k).state (ρ.world (k + 1)).state (ρ.creditsAt k) := by
  cases hm : ρ.moves[k]? with
  | none =>
    simp only [creditsAt, hm, world_succ_of_none hm]
    exact .ofSilent (.refl _)
  | some m =>
    simp only [creditsAt, hm, world_succ hm]
    exact World.step_told ρ.authority (ρ.world k) m

/-- The credits of a run grow by those of each move. -/
lemma credits_succ (ρ : Run η) (k : Nat) : ρ.credits (k + 1) = ρ.credits k ++ ρ.creditsAt k := by
  rw [credits, credits, List.range_succ, List.flatMap_append, List.flatMap_singleton]

/-- A sink that takes every event from the start takes every event. -/
lemma Recorded.records_at (h : ρ.Recorded) (k : Nat) : (ρ.registry k).Records := by
  obtain ⟨sink, hsink, hfragile⟩ := h.records
  exact ⟨sink, (sink_eq h.kept k).trans hsink, hfragile⟩

/-- What move `k` does to the sessions, what the sink hears of it, and what it takes credit for. -/
inductive Written (ρ : Run η) (k : Nat) : Prop
  | opened (b : Binding) (properties : TextMap)
      (bindings : (ρ.registry (k + 1)).bindings = (ρ.registry k).bindings ++ [b])
      (token : b.token = ρ.nextToken k) (drawn : ρ.drawn (k + 1) = ρ.drawn k + 1)
      (chronicle : ρ.chronicle (k + 1) = ρ.chronicle k ++ [b.creation properties])
      (credits : ρ.creditsAt k = [])
  | removed (doomed : Binding → Bool) (reason : RemovalReason)
      (bindings : (ρ.registry (k + 1)).bindings =
        (ρ.registry k).bindings.filter fun b => !doomed b)
      (chronicle : ρ.chronicle (k + 1) = ρ.chronicle k ++
        ((ρ.registry k).bindings.filter doomed).map (·.removal reason))
      (credits : ρ.creditsAt k =
        ((ρ.registry k).bindings.filter doomed).map fun b => (b.token, reason))

/-- **Every move of a recorded run is written down.** -/
theorem Recorded.written (h : ρ.Recorded) (k : Nat) : ρ.Written k := by
  have htold := ρ.told k
  generalize hcredits : ρ.creditsAt k = credits at htold
  cases htold with
  | opened b properties bindings token drawn chronicle =>
    exact .opened b properties bindings token drawn (chronicle (h.records_at k)) hcredits
  | removed doomed reason bindings _ chronicle =>
    exact .removed doomed reason bindings (chronicle (h.records_at k)) hcredits

/-- Nothing was reported before the start. -/
lemma Recorded.chronicle_zero (h : ρ.Recorded) : ρ.chronicle 0 = [] :=
  congrArg (List.map _) h.unheard

/-- No session was there before the start. -/
lemma Recorded.bindings_zero (h : ρ.Recorded) : (ρ.registry 0).bindings = [] :=
  congrArg (List.map _) h.empty

end Run

end Admittance
