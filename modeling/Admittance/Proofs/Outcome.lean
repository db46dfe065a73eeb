import Admittance.Proofs.Origin

/-!
# What calls are answered

A call is answered in one of four ways: it can do without the registry, its pre-check or its
verifier refuses it, it holds the registry once, or it is a join at its commit.  `Run.answered`
tells them apart.  Hence a join succeeds at its commit and nowhere else (`Run.Joins.committed`),
and what a commit can come to is the subject of `Run.Commits.outcome`: the token that it was
trusted for is gone, or there is a live session for it to answer with.
-/

namespace Admittance.Run

variable {η : Type} {ρ : Run η}

/-- A join gets the registry for its commit at move `k`. -/
structure Commits (ρ : Run η) (k n : Nat) (q : JoinRequest) (requester : PeerAddress)
    (g : Join.Grant) : Prop where
  move : ∃ registryFree, ρ.moves[k]? = some (.enter n registryFree)
  stands : ρ.Stands k n (.join q requester) (.waiting (.commit q requester g))

/-- Move `k` has a join succeed with this response. -/
structure Joins (ρ : Run η) (k n : Nat) (q : JoinRequest) (requester : PeerAddress)
    (response : JoinResponse) : Prop where
  answers : ρ.Answers k n (.join (.ok response))
  stands : ρ.Stands (k + 1) n (.join q requester) (.answered (.join (.ok response)))

/-- The commit that move `k` makes of this join. -/
def committed (ρ : Run η) (k : Nat) (q : JoinRequest) (requester : PeerAddress)
    (g : Join.Grant) : State η × Progress :=
  ρ.authority.enterCommit (ρ.world k).state q requester g

/-! ## The ways to be answered -/

/-- A call that stands somewhere without being answered has no answer. -/
lemma Stands.answer?_eq_none {k n : Nat} {call : Call} {progress : Progress}
    (h : ρ.Stands k n call progress) (hnot : ∀ answer, progress ≠ .answered answer) :
    (ρ.world k).answer? n = none := by
  rw [Option.eq_none_iff_forall_ne_some]
  intro answer hanswer
  obtain ⟨call', hflight⟩ := World.answer?_eq_some.mp hanswer
  have heq : (⟨call, some progress⟩ : Flight) = ⟨call', some (.answered answer)⟩ :=
    Option.some.inj (h.symm.trans hflight)
  exact hnot answer (Option.some.inj (congrArg Flight.progress heq))

/-- The world after a section. -/
lemma world_succ_of_entered {k : Nat} {pending : Section} (h : ρ.entered? k = some pending) :
    ∃ n call registryFree, ρ.world (k + 1) = (ρ.world k).put n call
      (ρ.authority.enterAndConsult (ρ.world k).state pending registryFree) := by
  obtain ⟨n, registryFree, call, hmove, hstands⟩ := entered?_eq_some h
  have hflight : (ρ.world k).flight n = some ⟨call, some (.waiting pending)⟩ := hstands
  refine ⟨n, call, registryFree, ?_⟩
  rw [Run.world_succ hmove]
  simp only [World.step, hflight]

/-- The world after a commit. -/
lemma Commits.world_succ {k n : Nat} {q : JoinRequest} {requester : PeerAddress}
    {g : Join.Grant} (h : ρ.Commits k n q requester g) :
    ρ.world (k + 1) = (ρ.world k).put n (.join q requester) (ρ.committed k q requester g) := by
  obtain ⟨registryFree, hmove⟩ := h.move
  have hstands : (ρ.world k).flight n = some ⟨.join q requester, some (.waiting (.commit ..))⟩ :=
    h.stands
  rw [Run.world_succ hmove]
  simp only [World.step, hstands, Authority.enterAndConsult_commit]
  rfl

/-- A commit gives its answer at once. -/
lemma Commits.answers {k n : Nat} {q : JoinRequest} {requester : PeerAddress} {g : Join.Grant}
    (h : ρ.Commits k n q requester g) {answer : Answer}
    (hanswer : (ρ.committed k q requester g).2 = .answered answer) :
    ρ.Answers k n answer ∧ ρ.Stands (k + 1) n (.join q requester) (.answered answer) := by
  have hstands : ρ.Stands (k + 1) n (.join q requester) (.answered answer) := by
    rw [Stands, h.world_succ, World.flight_put, if_pos rfl, hanswer]
  have hbefore : (ρ.world k).answer? n = none := h.stands.answer?_eq_none (by simp)
  exact ⟨⟨hbefore, World.answer?_eq_some.mpr ⟨_, hstands⟩⟩, hstands⟩

/-- The four ways in which a call is answered. -/
inductive Answered (ρ : Run η) (k n : Nat) (answer : Answer) : Prop
  /-- It is refused, or nothing is to be done. -/
  | unheard (why : (∃ e, answer = .join (.error e)) ∨ answer = .done)
  /-- It holds the registry once. -/
  | whole (call : Call) (entered : ρ.entered? k = some (.whole call))
      (answer_eq : answer = (ρ.authority.runWhole (ρ.world k).state call).2)
  /-- It is a join at its commit. -/
  | committed (q : JoinRequest) (requester : PeerAddress) (g : Join.Grant)
      (commits : ρ.Commits k n q requester g)
      (answer_eq : (ρ.committed k q requester g).2 = .answered answer)

/-- What a move enters. -/
lemma entered?_of_stands {k n : Nat} {registryFree : Bool} {call : Call} {pending : Section}
    (hmove : ρ.moves[k]? = some (.enter n registryFree))
    (hstands : ρ.Stands k n call (.waiting pending)) : ρ.entered? k = some pending := by
  have hflight : (ρ.world k).flight n = some ⟨call, some (.waiting pending)⟩ := hstands
  simp [entered?, hmove, Move.entered?, hflight]

/-- **Every answer comes in one of four ways.** -/
theorem answered {k n : Nat} {answer : Answer} (h : ρ.Answers k n answer) :
    ρ.Answered k n answer := by
  obtain ⟨hbefore, hafter⟩ := h
  obtain ⟨call, hflight⟩ := World.answer?_eq_some.mp hafter
  cases hm : ρ.moves[k]? with
  | none =>
    rw [world_succ_of_none hm, hbefore] at hafter
    exact absurd hafter (by simp)
  | some m =>
    rw [world_succ hm] at hflight
    rcases World.flight_step ρ.authority (ρ.world k) m n with hsame | ⟨f, hf, hadvance⟩
    · have hnow := World.answer?_eq_some.mpr ⟨call, hsame ▸ hflight⟩
      rw [hbefore] at hnow
      exact absurd hnow (by simp)
    · obtain rfl : f = ⟨call, some (.answered answer)⟩ := Option.some.inj (hf.symm.trans hflight)
      generalize hfinal : (⟨call, some (.answered answer)⟩ : Flight) = f at hadvance
      -- Of all ways to come further, these are the ones that may end in an answer.
      cases hadvance with
      | arrived call' before =>
        have hprogress := Option.some.inj (congrArg Flight.progress hfinal)
        rcases ρ.authority.arrive_progress (ρ.world k).state call' with
          ⟨q, requester, -, -, hp⟩ | ⟨-, hp⟩ | ⟨q, requester, -, -, hp⟩ | ⟨name, -, hp⟩ <;>
          rw [hp] at hprogress
        · simp at hprogress
        · simp at hprogress
        · exact .unheard (.inl ⟨_, Progress.answered.inj hprogress⟩)
        · exact .unheard (.inr (Progress.answered.inj hprogress))
      | entered registryFree call' pending before =>
        have hprogress := Option.some.inj (congrArg Flight.progress hfinal)
        match pending, before, ρ.explained k before with
        | .whole pending, before, _ =>
          rw [Authority.enterAndConsult_whole] at hprogress
          exact .whole pending (entered?_of_stands hm before) (Progress.answered.inj hprogress)
        | .precheck q requester, before, _ =>
          rw [Authority.enterAndConsult_precheck_progress] at hprogress
          rcases ρ.authority.enterPrecheck_progress (ρ.world k).state q requester with
            ⟨e, -, hp⟩ | ⟨presented, -, ⟨g, -, hp⟩ | ⟨-, hp⟩⟩ <;> rw [hp] at hprogress
          · exact .unheard (.inl ⟨e.1, Progress.answered.inj hprogress⟩)
          · simp at hprogress
          · simp at hprogress
        | .commit q requester g, before, ⟨hcall, _⟩ =>
          rw [Authority.enterAndConsult_commit] at hprogress
          exact .committed q requester g ⟨⟨registryFree, hm⟩, hcall ▸ before⟩ hprogress.symm
      | answered verdict call' context before =>
        have hprogress := Option.some.inj (congrArg Flight.progress hfinal)
        rcases Authority.conclude_progress (ρ.world k).state context verdict with
          ⟨e, -, hp⟩ | ⟨g, -, hp⟩ <;> rw [hp] at hprogress
        · exact .unheard (.inl ⟨e.1, Progress.answered.inj hprogress⟩)
        · simp at hprogress
      | abandoned call' progress before => simp at hfinal

/-- A join succeeds at its commit. -/
lemma Joins.committed {k n : Nat} {q : JoinRequest} {requester : PeerAddress}
    {response : JoinResponse} (h : ρ.Joins k n q requester response) :
    ∃ g, ρ.Commits k n q requester g ∧
      (ρ.committed k q requester g).2 = .answered (.join (.ok response)) := by
  cases answered h.answers with
  | unheard why =>
    rcases why with ⟨e, he⟩ | hdone
    · exact absurd (Answer.join.inj he) (by simp)
    · exact absurd hdone (by simp)
  | whole call _ answer_eq => cases call <;> exact absurd answer_eq (by simp [Authority.runWhole])
  | committed q' requester' g commits answer_eq =>
    have hflight := Option.some.inj (h.stands.symm.trans (commits.answers answer_eq).2)
    have hcall : Call.join q requester = .join q' requester' := congrArg Flight.call hflight
    obtain ⟨rfl, rfl⟩ := Call.join.inj hcall
    exact ⟨g, commits, answer_eq⟩

/-! ## What a commit comes to -/

/-- The ways in which a join comes by the session of a binding at its commit. -/
inductive Provided (ρ : Run η) (k : Nat) (q : JoinRequest) : Join.Grant → Binding → Prop
  /-- It keeps the session whose token it was trusted for. -/
  | kept (b : Binding) (mem : b ∈ (ρ.registry k).bindings) : Provided ρ k q (.reuse b.token) b
  /-- Its machine and identity have a session already. -/
  | found (v : Verified) (b : Binding) (mem : b ∈ (ρ.registry k).bindings)
      (machine : b.machineId = q.machineId) (identity : b.identity = v.identity) :
      Provided ρ k q (.verified v) b
  /-- It opens the session. -/
  | opened (v : Verified) (b : Binding)
      (none : (ρ.registry k).findByIdentity? q.machineId v.identity = none)
      (machine : b.machineId = q.machineId) (identity : b.identity = v.identity)
      (fresh : ¬ (ρ.registry k).IsLive b.token) : Provided ρ k q (.verified v) b

/-- A join that commits has passed its pre-check earlier, and has been granted its commit. -/
lemma Commits.granted {k n : Nat} {q : JoinRequest} {requester : PeerAddress} {g : Join.Grant}
    (h : ρ.Commits k n q requester g) :
    ∃ i presented, ρ.Granted i k n q requester presented g :=
  (ρ.explained k h.stands).2

section Outcome

variable {k n : Nat} {q : JoinRequest} {requester : PeerAddress} {g : Join.Grant}

/-- The registry after a commit is the one that the commit has made. -/
lemma Commits.registry_succ (h : ρ.Commits k n q requester g) :
    ρ.registry (k + 1) = (ρ.committed k q requester g).1.registry := by
  rw [registry, h.world_succ]
  rfl

/-- A commit that comes by a session leaves the bindings and the tokens as they were when it had
come by it. -/
lemma committed_silent (requester : PeerAddress) {st : Join.Seat} {x : Session}
    (hseat : Join.seat (ρ.registry k) (ρ.world k).state.now (ρ.authority.draw (ρ.drawn k)) q g =
      .ok st)
    (hx : st.registry.get? st.token = some x) :
    Silent (Authority.takeSeat (ρ.world k).state st) (ρ.committed k q requester g).1 ∧
      (ρ.committed k q requester g).2 = .answered (.join (.ok ⟨x.identity, x.token⟩)) := by
  have hlive : st.registry.IsLive x.token :=
    Registry.isLive_of_mem (Registry.binding_mem (Registry.get?_eq_some hx).1)
  rw [committed, ρ.authority.enterCommit_of_seat_eq_ok requester hseat hx]
  exact ⟨Silent.attachAndAnnounce _ requester hlive, rfl⟩

/-- **What a commit comes to.** -/
theorem Commits.outcome (hcommits : ρ.Commits k n q requester g) :
    (∃ t, g = .reuse t ∧ ¬ (ρ.registry k).IsLive t ∧
        ρ.Answers k n (.join (.error .sessionInvalid)) ∧ ρ.registry (k + 1) = ρ.registry k) ∨
      ∃ b ∈ (ρ.registry (k + 1)).bindings,
        ρ.Joins k n q requester ⟨b.identity, b.token⟩ ∧ ρ.Provided k q g b := by
  cases hseat : Join.seat (ρ.registry k) (ρ.world k).state.now (ρ.authority.draw (ρ.drawn k)) q g
    with
  | error e =>
    obtain ⟨t, rfl, hgone, rfl⟩ := Join.seat_eq_error hseat
    have hcommitted := ρ.authority.enterCommit_of_seat_eq_error requester hseat
    refine .inl ⟨t, rfl, hgone, (hcommits.answers ?_).1, ?_⟩
    · exact congrArg Prod.snd hcommitted
    · rw [hcommits.registry_succ]
      exact congrArg (·.1.registry) hcommitted
  | ok st =>
    have hseated := Join.seated_of_seat_eq_ok hseat
    obtain ⟨x, hx⟩ := Registry.isLive_iff_get?.mp hseated.isLive
    obtain ⟨hmem, htoken⟩ := Registry.get?_eq_some hx
    obtain ⟨hsilent, hanswer⟩ := committed_silent requester hseat hx
    have hbindings : (ρ.registry (k + 1)).bindings = st.registry.bindings := by
      rw [hcommits.registry_succ]
      exact hsilent.bindings
    have hjoins : ρ.Joins k n q requester ⟨x.identity, x.token⟩ :=
      ⟨(hcommits.answers hanswer).1, (hcommits.answers hanswer).2⟩
    refine .inr ⟨x.binding, hbindings ▸ Registry.binding_mem hmem, hjoins, ?_⟩
    cases hseated with
    | trusted y _ =>
      have hxy : x.token = y.token := htoken
      rw [← hxy]
      exact .kept x.binding (Registry.binding_mem hmem)
    | found v y hy machine identity =>
      have hxy : x.binding = y.binding :=
        Registry.binding_eq (Registry.binding_mem hmem) (Registry.binding_mem hy) htoken
      rw [hxy]
      exact .found v y.binding (Registry.binding_mem hy) machine identity
    | opened v none r' bindings _ _ _ =>
      have hfresh : ¬ (ρ.registry k).IsLive (ρ.nextToken k) :=
        ρ.authority.not_isLive_nextToken (ρ.world k).state
      -- The new session is the only one of its token.
      have hnew : x.binding ∈ (ρ.registry k).bindings ++ [Join.newBinding _ _ q v] :=
        bindings ▸ Registry.binding_mem hmem
      rcases List.mem_append.mp hnew with hold | hnew
      · have hfreshToken : x.token = ρ.nextToken k := htoken
        exact absurd (hfreshToken ▸ Registry.isLive_of_mem hold) hfresh
      · have hx : x.binding = Join.newBinding _ _ q v := List.mem_singleton.mp hnew
        rw [hx]
        exact .opened v _ none rfl rfl hfresh

/-- A commit removes nothing. -/
lemma Commits.mem_bindings_succ (hcommits : ρ.Commits k n q requester g) {b : Binding}
    (hb : b ∈ (ρ.registry k).bindings) : b ∈ (ρ.registry (k + 1)).bindings := by
  cases hseat : Join.seat (ρ.registry k) (ρ.world k).state.now (ρ.authority.draw (ρ.drawn k)) q g
    with
  | error e =>
    have hcommitted := ρ.authority.enterCommit_of_seat_eq_error requester hseat
    rw [hcommits.registry_succ, committed, hcommitted]
    exact hb
  | ok st =>
    have hseated := Join.seated_of_seat_eq_ok hseat
    obtain ⟨x, hx⟩ := Registry.isLive_iff_get?.mp hseated.isLive
    obtain ⟨hsilent, -⟩ := committed_silent requester hseat hx
    have hbindings : (ρ.registry (k + 1)).bindings = st.registry.bindings := by
      rw [hcommits.registry_succ]
      exact hsilent.bindings
    rw [hbindings]
    cases hseated with
    | trusted | found => exact hb
    | opened v _ r' bindings _ _ _ => exact bindings ▸ List.mem_append_left _ hb

end Outcome

/-- **A successful join, from its pre-check to its commit.** -/
theorem Joins.provided {k n : Nat} {q : JoinRequest} {requester : PeerAddress}
    {response : JoinResponse} (hjoins : ρ.Joins k n q requester response) :
    ∃ i presented g, ρ.Commits k n q requester g ∧ ρ.Granted i k n q requester presented g ∧
      ∃ b ∈ (ρ.registry (k + 1)).bindings,
        response = ⟨b.identity, b.token⟩ ∧ ρ.Provided k q g b := by
  obtain ⟨g, hcommits, hanswer⟩ := hjoins.committed
  obtain ⟨i, presented, hgranted⟩ := hcommits.granted
  refine ⟨i, presented, g, hcommits, hgranted, ?_⟩
  rcases hcommits.outcome with ⟨t, -, -, hrefused, -⟩ | ⟨b, hb, hb', hprovided⟩
  · have heq := Option.some.inj (hjoins.answers.2.symm.trans hrefused.2)
    exact absurd (Answer.join.inj heq) (by simp)
  · have heq := Option.some.inj (hjoins.answers.2.symm.trans hb'.answers.2)
    exact ⟨b, hb, Except.ok.inj (Answer.join.inj heq), hprovided⟩

end Admittance.Run
