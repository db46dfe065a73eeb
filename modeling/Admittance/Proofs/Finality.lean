import Admittance.Proofs.Outcome

/-!
# A session that is gone stays gone

A join keeps a copy of the session that it presented while its verifier is at work, and the session
may be removed meanwhile.  Nothing ever comes of that copy.  Once a token was live and is not, no
answer names it, no event is about it and no listener hears of it, whatever else happens
(`Run.over_of_gone`).  A join that was trusted for the token is refused when it gets to its commit;
a join that was verified again is given another token.

The reason is that an answer, an event or a notification names a token only if it is live before or
after the move (`Run.names_live`, `Run.effect`), and that a token which was live once is not handed
out again.
-/

namespace Admittance

variable {η : Type}

/-! ## Answers that name a session -/

/-- The answer names the session of a token. -/
def Answer.Names (t : SessionToken) : Answer → Prop
  | .join (.ok response) => response.sessionToken = t
  | .session (some x) => x.token = t
  | .sessions found => ∃ x ∈ found, x.token = t
  | .tokens all => t ∈ all
  | _ => False

/-- A removal answers with tokens that were live. -/
lemma Registry.isLive_of_mem_removeWhere {r : Registry} {reason : RemovalReason}
    {doomed : Session → Bool} {t : SessionToken}
    (ht : t ∈ (r.removeWhere reason doomed).value.tokens) : r.IsLive t := by
  unfold removeWhere at ht
  split at ht
  · split at ht
    · simp at ht
    · rename_i x hfind
      rw [List.mem_singleton.mp ht]
      exact isLive_of_mem (binding_mem (List.mem_of_find?_eq_some hfind))
  · obtain ⟨x, hx, rfl⟩ := List.mem_map.mp ht
    exact isLive_of_mem (binding_mem (List.mem_filter.mp hx).1)

/-- A call that holds the registry once is answered with live sessions only. -/
lemma Authority.isLive_of_names_runWhole {a : Authority η} {s : State η} {call : Call}
    {t : SessionToken} (h : (a.runWhole s call).2.Names t) :
    s.registry.IsLive t ∨ (a.runWhole s call).1.registry.IsLive t := by
  cases call with
  | session token =>
    cases hget : s.registry.get? token with
    | none => simp [runWhole, hget, Answer.Names] at h
    | some x =>
      simp only [runWhole, hget, Answer.Names] at h
      exact .inl (h ▸ Registry.isLive_of_mem (Registry.binding_mem (Registry.get?_eq_some hget).1))
  | create machineId identity conferenceName properties =>
    -- The only token that may be named without having been live before.
    have htoken : a.nextToken s = t := h
    exact .inr (htoken ▸ Registry.isLive_create s.registry s.now (a.draw s.drawn) machineId identity
      conferenceName properties)
  | findByIdentity machineId identity =>
    obtain ⟨x, hx, rfl⟩ := h
    unfold Registry.ofIdentity at hx
    split at hx
    · simp at hx
    · exact .inl (Registry.isLive_of_mem (Registry.binding_mem (List.mem_filter.mp hx).1))
  | findByPeer peer =>
    cases hfind : s.registry.findByPeer? peer with
    | none => simp [runWhole, hfind, Answer.Names] at h
    | some x =>
      simp only [runWhole, hfind, Answer.Names] at h
      unfold Registry.findByPeer? at hfind
      split at hfind
      · simp at hfind
      · have hmem : x ∈ s.registry.sessions := List.mem_of_find?_eq_some hfind
        exact .inl (h ▸ Registry.isLive_of_mem (Registry.binding_mem hmem))
  | attach token peer =>
    simp only [runWhole, Registry.attach_value] at h
    cases hget : s.registry.get? token with
    | none => simp [hget, Answer.Names] at h
    | some x =>
      rw [hget] at h
      have htoken : x.token = t := h
      exact .inl (htoken ▸
        Registry.isLive_of_mem (Registry.binding_mem (Registry.get?_eq_some hget).1))
  | purge name => exact .inl (Registry.isLive_of_mem_removeWhere h)
  | sweep offset lifetime => exact .inl (Registry.isLive_of_mem_removeWhere h)
  | join | logout | lookup | conferenceEnded | sessionText | sessionCount | destroy | registryText
  | setSink => exact h.elim

namespace Run

variable {ρ : Run η}

/-- An answer names sessions that are live before or after it is given. -/
lemma names_live {k n : Nat} {answer : Answer} {t : SessionToken}
    (hanswers : ρ.Answers k n answer) (hnames : answer.Names t) :
    (ρ.registry k).IsLive t ∨ (ρ.registry (k + 1)).IsLive t := by
  cases answered hanswers with
  | unheard why =>
    rcases why with ⟨e, rfl⟩ | rfl
    · exact hnames.elim
    · exact hnames.elim
  | whole call hentered answer_eq =>
    obtain ⟨i, call', registryFree, hworld⟩ := world_succ_of_entered hentered
    rw [Authority.enterAndConsult_whole] at hworld
    rw [registry, registry, hworld]
    exact Authority.isLive_of_names_runWhole (answer_eq ▸ hnames)
  | committed q requester g hcommits hanswer =>
    obtain ⟨hanswers', hstands⟩ := hcommits.answers hanswer
    obtain ⟨s', result, hcommit⟩ :=
      Authority.exists_enterCommit_eq ρ.authority (ρ.world k).state q requester g
    have hresult : answer = .join result :=
      Progress.answered.inj (hanswer.symm.trans (congrArg Prod.snd hcommit))
    subst hresult
    cases result with
    | error e => exact hnames.elim
    | ok response =>
      have hjoins : ρ.Joins k n q requester response := ⟨hanswers', hstands⟩
      obtain ⟨-, -, -, -, -, b, hb, rfl, -⟩ := hjoins.provided
      exact .inr (hnames ▸ Registry.isLive_of_mem hb)

/-! ## The end of a session -/

/-- From the world after move `j` on, the session of a token is over. -/
structure Over (ρ : Run η) (j : Nat) (t : SessionToken) : Prop where
  /-- It is never live again. -/
  not_isLive : ∀ k, j < k → ¬ (ρ.registry k).IsLive t
  /-- No answer names it. -/
  not_named : ∀ k, j < k → ∀ n answer, ρ.Answers k n answer → ¬ answer.Names t
  /-- No sink and no listener hears of it. -/
  not_concerned : ∀ k, j < k → ∃ more,
    (ρ.world k).state.trace = (ρ.world (j + 1)).state.trace ++ more ∧ ∀ e ∈ more, ¬ e.2.Concerns t
  /-- A connection that is to be attached to it is not, and nothing else changes. -/
  not_attached : ∀ k, j < k → ∀ peer, ρ.entered? k = some (.whole (.attach t peer)) →
    ρ.registry (k + 1) = ρ.registry k
  /-- A join that is to be trusted for its token has been answered, or it is refused as soon as it
  gets the registry. -/
  not_trusted : ρ.authority.verifier.policy = .trustToken → ∀ k, j < k →
    ∀ n q requester progress, q.presentedToken = some t →
      ρ.Stands k n (.join q requester) progress → (∃ answer, progress = .answered answer) ∨
        ∃ pending, progress = .waiting pending ∧ ∀ registryFree,
          ρ.moves[k]? = some (.enter n registryFree) →
            ρ.Answers k n (.join (.error .sessionInvalid))
  /-- A join that is verified again is given another token. -/
  not_joined : ∀ k, j < k → ∀ n q requester response, ρ.Joins k n q requester response →
    response.sessionToken ≠ t

/-- What is reported between two moves tells of sessions that were live on the way. -/
lemma exists_trace_eq {j k : Nat} {t : SessionToken} (hjk : j ≤ k)
    (h : ∀ i, j ≤ i → i ≤ k → ¬ (ρ.registry i).IsLive t) :
    ∃ more, (ρ.world k).state.trace = (ρ.world j).state.trace ++ more ∧
      ∀ e ∈ more, ¬ e.2.Concerns t := by
  induction k, hjk using Nat.le_induction with
  | base => exact ⟨[], by simp, by simp⟩
  | succ k hjk ih =>
    obtain ⟨before, htrace, hbefore⟩ := ih fun i hij hik => h i hij (Nat.le_succ_of_le hik)
    obtain ⟨new, hnew, hconcerns⟩ := (ρ.effect k).discreet
    refine ⟨before ++ new, by rw [hnew, htrace, List.append_assoc], ?_⟩
    intro e he ht
    rcases List.mem_append.mp he with he | he
    · exact hbefore e he ht
    · rcases hconcerns e he t ht with hlive | hlive
      · exact h k hjk (Nat.le_succ k) hlive
      · exact h (k + 1) (Nat.le_succ_of_le hjk) le_rfl hlive

/-- A join that is to be trusted for its token waits for the registry until it is answered, and if
it gets as far as its commit, then it is for the token. -/
lemma trusted_pending {k n : Nat} {q : JoinRequest} {requester : PeerAddress}
    {progress : Progress} {t : SessionToken}
    (hpolicy : ρ.authority.verifier.policy = .trustToken) (hq : q.presentedToken = some t)
    (hstands : ρ.Stands k n (.join q requester) progress) :
    (∃ answer, progress = .answered answer) ∨ progress = .waiting (.precheck q requester) ∨
      progress = .waiting (.commit q requester (.reuse t)) := by
  have hexplained := ρ.explained k hstands
  match progress, hexplained with
  | .answered answer, _ => exact .inl ⟨answer, rfl⟩
  | .waiting (.whole call), ⟨_, hnot⟩ => exact absurd rfl (hnot q requester)
  | .waiting (.precheck q' requester'), ⟨hcall, _⟩ =>
    obtain ⟨rfl, rfl⟩ := Call.join.inj hcall
    exact .inr (.inl rfl)
  | .verifying context, ⟨hcall, htrust, i, _, hpre⟩ =>
    obtain ⟨rfl, rfl⟩ := Call.join.inj hcall
    obtain ⟨x, -, hpresented, -⟩ := hpre.exists_session hq
    rw [hpolicy, hpresented] at htrust
    exact absurd htrust (by simp [Join.trusted])
  | .waiting (.commit q' requester' g), ⟨hcall, i, presented, _, hpre, hgrant⟩ =>
    obtain ⟨rfl, rfl⟩ := Call.join.inj hcall
    obtain ⟨x, -, rfl, rfl, -⟩ := hpre.exists_session hq
    have htrusted : Join.trusted ρ.authority.verifier.policy (some x) = some (.reuse x.token) := by
      rw [hpolicy]
      rfl
    rcases hgrant with hgrant | ⟨hnone, -⟩
    · have hg : g = .reuse x.token := Option.some.inj (hgrant.symm.trans htrusted)
      exact .inr (.inr (hg ▸ rfl))
    · rw [htrusted] at hnone
      exact absurd hnone (by simp)

/-- A pre-check without a live session refuses the join. -/
lemma answers_of_precheck_not_isLive {k n : Nat} {q : JoinRequest} {requester : PeerAddress}
    {registryFree : Bool} {t : SessionToken} (hq : q.presentedToken = some t)
    (hgone : ¬ (ρ.registry k).IsLive t) (hmove : ρ.moves[k]? = some (.enter n registryFree))
    (hstands : ρ.Stands k n (.join q requester) (.waiting (.precheck q requester))) :
    ρ.Answers k n (.join (.error .sessionInvalid)) := by
  have hflight : (ρ.world k).flight n = some ⟨.join q requester, some (.waiting (.precheck ..))⟩ :=
    hstands
  have hrefused : (ρ.authority.enterPrecheck (ρ.world k).state q requester).2 =
      .answered (.join (.error .sessionInvalid)) := by
    have hprecheck := Join.precheck_of_not_isLive hq hgone
    simp only [registry] at hprecheck
    simp only [Authority.enterPrecheck, hprecheck, Authority.refuse]
  refine ⟨hstands.answer?_eq_none (by simp), ?_⟩
  rw [World.answer?_eq_some, world_succ hmove]
  simp only [World.step, hflight, World.flight_put, if_true,
    Authority.enterAndConsult_precheck_progress, hrefused]
  exact ⟨_, rfl⟩

/-- **A session that is gone stays gone.** -/
theorem over_of_gone (h : ρ.TokensDistinct) {j : Nat} {t : SessionToken}
    (hlive : (ρ.registry j).IsLive t) (hgone : ¬ (ρ.registry (j + 1)).IsLive t) :
    ρ.Over j t := by
  have hdead : ∀ k, j < k → ¬ (ρ.registry k).IsLive t := fun k hjk =>
    h.not_isLive_of_gone (Nat.le_succ j) hjk hlive hgone
  have hunnamed : ∀ k, j < k → ∀ n answer, ρ.Answers k n answer → ¬ answer.Names t := by
    intro k hjk n answer hanswers hnames
    rcases names_live hanswers hnames with hback | hback
    · exact hdead k hjk hback
    · exact hdead (k + 1) (Nat.lt_succ_of_lt hjk) hback
  constructor
  case not_isLive => exact hdead
  case not_named => exact hunnamed
  case not_concerned =>
    intro k hjk
    exact exists_trace_eq hjk fun i hji _ => hdead i hji
  case not_attached =>
    intro k hjk peer hentered
    obtain ⟨n, call, registryFree, hworld⟩ := world_succ_of_entered hentered
    have hnone : (ρ.registry k).get? t = none := Registry.get?_eq_none_iff.mpr (hdead k hjk)
    rw [registry, hworld, Authority.enterAndConsult_whole]
    rw [registry] at hnone
    simp only [World.put, Authority.runWhole, Registry.attach, hnone]
    rfl
  case not_trusted =>
    intro hpolicy k hjk n q requester progress hq hstands
    rcases trusted_pending hpolicy hq hstands with hanswered | rfl | rfl
    · exact .inl hanswered
    · refine .inr ⟨_, rfl, fun registryFree hmove => ?_⟩
      exact answers_of_precheck_not_isLive hq (hdead k hjk) hmove hstands
    · refine .inr ⟨_, rfl, fun registryFree hmove => ?_⟩
      have hcommits : ρ.Commits k n q requester (.reuse t) := ⟨⟨registryFree, hmove⟩, hstands⟩
      rcases hcommits.outcome with ⟨t', -, -, hrefused, -⟩ | ⟨b, -, -, hprovided⟩
      · exact hrefused
      · generalize hg : Join.Grant.reuse t = g at hprovided
        cases hprovided with
        | kept b hb =>
          have htoken : t = b.token := Join.Grant.reuse.inj hg
          exact absurd (htoken ▸ Registry.isLive_of_mem hb) (hdead k hjk)
        | found | opened => exact absurd hg (by simp)
  case not_joined =>
    intro k hjk n q requester response hjoins
    exact hunnamed k hjk n _ hjoins.answers

/-- A session is given up while a join with its token waits for its commit. -/
def givenUp : Run Unit where
  authority := .sample .trustToken
  start := .initial 0 none ()
  moves := [.arrive 0 (.create "desk" "ann" "room" .empty), .enter 0 true,
    .arrive 1 (.join ((JoinRequest.plain "desk" "room").withToken (.ofNumber 0)) ⟨"peer"⟩),
    .enter 1 true, .arrive 2 (.logout (.ofNumber 0)), .enter 2 true, .enter 1 true]

/-- The session does not come back with the join. -/
theorem givenUp_over :
    givenUp.TokensDistinct ∧ (givenUp.registry 5).IsLive (.ofNumber 0) ∧
      ¬ (givenUp.registry 6).IsLive (.ofNumber 0) ∧ givenUp.Over 5 (.ofNumber 0) := by
  have hdistinct : givenUp.TokensDistinct := by decide
  have hlive : (givenUp.registry 5).IsLive (.ofNumber 0) := by decide
  have hgone : ¬ (givenUp.registry 6).IsLive (.ofNumber 0) := by decide
  exact ⟨hdistinct, hlive, hgone, over_of_gone hdistinct hlive hgone⟩

end Run

end Admittance
