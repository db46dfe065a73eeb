import Admittance.Proofs.Token

/-!
# How a call has come where it is

A join that waits for its commit has passed a pre-check earlier in the run, and it has either been
trusted for the token that it presented or been vouched for by an answer of its verifier.
`Flight.Explained` says so of every stage of every call, with the numbers of the moves at which it
happened; `Run.explained` proves it of every run.  What is known of a join at its commit, above all
that its verifier vouched for it, is known from there.
-/

namespace Admittance

variable {η : Type}

/-! ## The next stage of a call -/

namespace Authority

variable (a : Authority η) (s : State η)

/-- A call is on its way to the registry unless it can be answered without it. -/
lemma arrive_progress (call : Call) :
    (∃ q requester, call = .join q requester ∧ q.machineId.isEmpty = false ∧
        (a.arrive s call).2 = .waiting (.precheck q requester)) ∨
      ((∀ q requester, call ≠ .join q requester) ∧ (a.arrive s call).2 = .waiting (.whole call)) ∨
      (∃ q requester, call = .join q requester ∧ q.machineId.isEmpty = true ∧
        (a.arrive s call).2 = .answered (.join (.error (Join.refuseUnnamed requester).1))) ∨
      ∃ name, call = .conferenceEnded name ∧ (a.arrive s call).2 = .answered .done := by
  cases call with
  | join q requester =>
    cases hm : q.machineId.isEmpty with
    | true =>
      exact .inr (.inr (.inl ⟨q, requester, rfl, hm, by simp only [arrive, hm, if_true, refuse]⟩))
    | false =>
      exact .inl ⟨q, requester, rfl, hm, by simp only [arrive, hm, Bool.false_eq_true, if_false]⟩
  | conferenceEnded name =>
    by_cases he : a.config.destroyOnConferenceEnd
    · exact .inr (.inl ⟨by simp, by simp [arrive, he]⟩)
    · exact .inr (.inr (.inr ⟨name, rfl, by simp [arrive, he]⟩))
  | _ => exact .inr (.inl ⟨by simp, rfl⟩)

/-- A pre-check refuses the join, or lets it go on to its commit or to its verifier. -/
lemma enterPrecheck_progress (q : JoinRequest) (requester : PeerAddress) :
    (∃ e, Join.precheck s.registry q = .error e ∧
        a.enterPrecheck s q requester = refuse s e) ∨
      ∃ presented, Join.precheck s.registry q = .ok presented ∧
        ((∃ g, Join.trusted a.verifier.policy presented = some g ∧
            a.enterPrecheck s q requester = (s, .waiting (.commit q requester g))) ∨
          Join.trusted a.verifier.policy presented = none ∧
            a.enterPrecheck s q requester = (s, .verifying ⟨q, requester, presented⟩)) := by
  cases hpre : Join.precheck s.registry q with
  | error e => exact .inl ⟨e, rfl, by simp only [enterPrecheck, hpre]⟩
  | ok presented =>
    cases htrust : Join.trusted a.verifier.policy presented with
    | some g =>
      exact .inr ⟨presented, rfl, .inl ⟨g, htrust, by simp only [enterPrecheck, hpre, htrust]⟩⟩
    | none =>
      exact .inr ⟨presented, rfl, .inr ⟨htrust, by simp only [enterPrecheck, hpre, htrust]⟩⟩

/-- A call that is done in one section is answered at once. -/
lemma enterAndConsult_whole (call : Call) (registryFree : Bool) :
    a.enterAndConsult s (.whole call) registryFree =
      ((a.runWhole s call).1, .answered (a.runWhole s call).2) := rfl

/-- A commit asks no verifier. -/
lemma enterAndConsult_commit (q : JoinRequest) (requester : PeerAddress) (g : Join.Grant)
    (registryFree : Bool) :
    a.enterAndConsult s (.commit q requester g) registryFree = a.enterCommit s q requester g := by
  obtain ⟨s', result, hcommit⟩ := exists_enterCommit_eq a s q requester g
  simp only [enterAndConsult, consulting, enter, hcommit]

/-- The stage that a join is in after its pre-check. -/
lemma enterAndConsult_precheck_progress (q : JoinRequest) (requester : PeerAddress)
    (registryFree : Bool) :
    (a.enterAndConsult s (.precheck q requester) registryFree).2 =
      (a.enterPrecheck s q requester).2 := by
  simp only [enterAndConsult, consulting, enter]
  split
  · rename_i heq
    rw [heq]
  · rfl

/-- A verifier's answer refuses the join or lets it go on to its commit. -/
lemma conclude_progress (context : VerifyContext) (verdict : Verdict) :
    (∃ e, Join.judge context.peer context.request.machineId context.session verdict = .error e ∧
        conclude s context verdict = refuse s e) ∨
      ∃ g, Join.judge context.peer context.request.machineId context.session verdict = .ok g ∧
        conclude s context verdict = (s, .waiting (.commit context.request context.peer g)) := by
  unfold conclude
  cases Join.judge context.peer context.request.machineId context.session verdict with
  | error e => exact .inl ⟨e, rfl, rfl⟩
  | ok g => exact .inr ⟨g, rfl, rfl⟩

end Authority

/-! ## What has happened to a join -/

namespace Run

/-- Move `i` is the pre-check of a join, and it lets the join pass with a presented session, if
there is one. -/
structure PreChecked (ρ : Run η) (i n : Nat) (q : JoinRequest) (requester : PeerAddress)
    (presented : Option Session) : Prop where
  move : ∃ registryFree, ρ.moves[i]? = some (.enter n registryFree)
  stands : ρ.Stands i n (.join q requester) (.waiting (.precheck q requester))
  named : q.machineId.isEmpty = false
  passes : Join.precheck (ρ.registry i) q = .ok presented

/-- A join that presents a token has passed its pre-check with the token's session. -/
lemma PreChecked.exists_session {ρ : Run η} {i n : Nat} {q : JoinRequest}
    {requester : PeerAddress} {presented : Option Session} {t : SessionToken}
    (h : ρ.PreChecked i n q requester presented) (hq : q.presentedToken = some t) :
    ∃ x ∈ (ρ.registry i).sessions,
      presented = some x ∧ x.token = t ∧ x.machineId = q.machineId := by
  cases presented with
  | none =>
    have hnone := Join.precheck_eq_ok_none.mp h.passes
    rw [hq] at hnone
    exact absurd hnone (by simp)
  | some x =>
    obtain ⟨t', hq', hget, hmachine⟩ := Join.precheck_eq_ok_some.mp h.passes
    obtain ⟨hmem, htoken⟩ := Registry.get?_eq_some hget
    have htt : t' = t := Option.some.inj (hq'.symm.trans hq)
    exact ⟨x, hmem, rfl, htoken.trans htt, hmachine⟩

/-- A session that a join has passed its pre-check with is the one of its token. -/
lemma PreChecked.presents {ρ : Run η} {i n : Nat} {q : JoinRequest} {requester : PeerAddress}
    {x : Session} (h : ρ.PreChecked i n q requester (some x)) :
    x ∈ (ρ.registry i).sessions ∧ q.presentedToken = some x.token ∧
      x.machineId = q.machineId := by
  obtain ⟨t, hq, hget, hmachine⟩ := Join.precheck_eq_ok_some.mp h.passes
  obtain ⟨hmem, htoken⟩ := Registry.get?_eq_some hget
  exact ⟨hmem, htoken ▸ hq, hmachine⟩

/-- Move `j` is the verifier's answer to a join. -/
structure Consulted (ρ : Run η) (j n : Nat) (context : VerifyContext) (verdict : Verdict) :
    Prop where
  move : ρ.moves[j]? = some (.answer n verdict)
  stands : ρ.Stands j n (.join context.request context.peer) (.verifying context)

/-- A join has got as far as its commit with this grant, having passed its pre-check at move
`i`. -/
structure Granted (ρ : Run η) (i k n : Nat) (q : JoinRequest) (requester : PeerAddress)
    (presented : Option Session) (g : Join.Grant) : Prop where
  before : i < k
  prechecked : ρ.PreChecked i n q requester presented
  grounds : Join.trusted ρ.authority.verifier.policy presented = some g ∨
    Join.trusted ρ.authority.verifier.policy presented = none ∧
      ∃ j verdict, i < j ∧ j < k ∧ ρ.Consulted j n ⟨q, requester, presented⟩ verdict ∧
        Join.judge requester q.machineId presented verdict = .ok g

/-- A join that is granted its commit for a token is trusted for the one that it presented. -/
lemma Granted.trusted {ρ : Run η} {i k n : Nat} {q : JoinRequest} {requester : PeerAddress}
    {presented : Option Session} {t : SessionToken}
    (h : ρ.Granted i k n q requester presented (.reuse t)) :
    ρ.authority.verifier.policy = .trustToken ∧ ∃ x, presented = some x ∧ x.token = t := by
  obtain ⟨-, -, htrusted | ⟨-, j, verdict, -, -, -, hjudge⟩⟩ := h
  · obtain ⟨hpolicy, x, hx, ht⟩ := Join.trusted_eq_some.mp htrusted
    exact ⟨hpolicy, x, hx, (Join.Grant.reuse.inj ht).symm⟩
  · obtain ⟨v, -, -, -, hg⟩ := Join.judge_eq_ok.mp hjudge
    exact absurd hg (by simp)

/-- A join that is granted its commit for an answer of its verifier has been given that answer. -/
lemma Granted.verified {ρ : Run η} {i k n : Nat} {q : JoinRequest} {requester : PeerAddress}
    {presented : Option Session} {v : Verified}
    (h : ρ.Granted i k n q requester presented (.verified v)) :
    (∃ j, i < j ∧ j < k ∧ ρ.Consulted j n ⟨q, requester, presented⟩ (.ok v)) ∧
      v.identity.isEmpty = false ∧ ∀ x, presented = some x → x.identity = v.identity := by
  obtain ⟨-, -, htrusted | ⟨-, j, verdict, hij, hjk, hconsulted, hjudge⟩⟩ := h
  · obtain ⟨-, x, -, hg⟩ := Join.trusted_eq_some.mp htrusted
    exact absurd hg (by simp)
  · obtain ⟨v', rfl, hnamed, hsame, hg⟩ := Join.judge_eq_ok.mp hjudge
    obtain rfl : v = v' := Join.Grant.verified.inj hg
    exact ⟨⟨j, hij, hjk, hconsulted⟩, hnamed, hsame⟩

/-- Only a token is trusted. -/
lemma Granted.untrusted {ρ : Run η} {i k n : Nat} {q : JoinRequest} {requester : PeerAddress}
    {presented : Option Session} {v : Verified}
    (h : ρ.Granted i k n q requester presented (.verified v)) :
    Join.trusted ρ.authority.verifier.policy presented = none := by
  rcases h.grounds with htrusted | ⟨hnone, -⟩
  · obtain ⟨-, x, -, hg⟩ := Join.trusted_eq_some.mp htrusted
    exact absurd hg (by simp)
  · exact hnone

/-- What must have happened in the first `k` moves for the call of a number to stand where it
stands. -/
def Explained (ρ : Run η) (k n : Nat) : Flight → Prop
  | ⟨call, some (.waiting (.whole pending))⟩ =>
    pending = call ∧ ∀ q requester, call ≠ .join q requester
  | ⟨call, some (.waiting (.precheck q requester))⟩ =>
    call = .join q requester ∧ q.machineId.isEmpty = false
  | ⟨call, some (.verifying context)⟩ =>
    call = .join context.request context.peer ∧
      Join.trusted ρ.authority.verifier.policy context.session = none ∧
      ∃ i < k, ρ.PreChecked i n context.request context.peer context.session
  | ⟨call, some (.waiting (.commit q requester g))⟩ =>
    call = .join q requester ∧ ∃ i presented, ρ.Granted i k n q requester presented g
  | _ => True

/-- What has explained a call once explains it ever after. -/
lemma Explained.succ {ρ : Run η} {k n : Nat} {f : Flight} (h : ρ.Explained k n f) :
    ρ.Explained (k + 1) n f := by
  match f, h with
  | ⟨_, some (.waiting (.whole _))⟩, h => exact h
  | ⟨_, some (.waiting (.precheck _ _))⟩, h => exact h
  | ⟨_, some (.verifying _)⟩, ⟨hcall, htrust, i, hi, hpre⟩ =>
    exact ⟨hcall, htrust, i, Nat.lt_succ_of_lt hi, hpre⟩
  | ⟨_, some (.waiting (.commit _ _ _))⟩, ⟨hcall, i, presented, hi, hpre, hgrant⟩ =>
    refine ⟨hcall, i, presented, Nat.lt_succ_of_lt hi, hpre, hgrant.imp_right ?_⟩
    rintro ⟨htrust, j, verdict, hij, hjk, hrest⟩
    exact ⟨htrust, j, verdict, hij, Nat.lt_succ_of_lt hjk, hrest⟩
  | ⟨_, some (.answered _)⟩, _ => trivial
  | ⟨_, none⟩, _ => trivial

/-- **Every call has come where it is by its own moves.** -/
theorem explained (ρ : Run η) (k : Nat) {n : Nat} {f : Flight}
    (hf : (ρ.world k).flight n = some f) : ρ.Explained k n f := by
  induction k generalizing n f with
  | zero => simp at hf
  | succ k ih =>
    cases hm : ρ.moves[k]? with
    | none =>
      rw [world_succ_of_none hm] at hf
      exact (ih hf).succ
    | some m =>
      rw [world_succ hm] at hf
      -- Unless the move is the call's own, the call stays where it was, and so does its history.
      rcases World.flight_step ρ.authority (ρ.world k) m n with hsame | ⟨f', hf', hadvance⟩
      · exact (ih (hsame ▸ hf)).succ
      · obtain rfl : f' = f := Option.some.inj (hf'.symm.trans hf)
        cases hadvance with
        | arrived call before =>
          rcases ρ.authority.arrive_progress (ρ.world k).state call with
            ⟨q, requester, rfl, hnamed, hp⟩ | ⟨hnot, hp⟩ | ⟨q, requester, rfl, -, hp⟩ |
              ⟨name, -, hp⟩
          · rw [hp]; exact ⟨rfl, hnamed⟩
          · rw [hp]; exact ⟨rfl, hnot⟩
          · rw [hp]; trivial
          · rw [hp]; trivial
        | entered registryFree call pending before =>
          match pending, ih before with
          | .whole pending, _ =>
            rw [Authority.enterAndConsult_whole]; trivial
          | .commit q requester g, _ =>
            rw [Authority.enterAndConsult_commit]
            obtain ⟨s', result, hcommit⟩ :=
              Authority.exists_enterCommit_eq ρ.authority (ρ.world k).state q requester g
            rw [hcommit]; trivial
          | .precheck q requester, ⟨hcall, hnamed⟩ =>
            subst hcall
            rw [Authority.enterAndConsult_precheck_progress]
            rcases ρ.authority.enterPrecheck_progress (ρ.world k).state q requester with
              ⟨e, -, hp⟩ | ⟨presented, hpasses, ⟨g, htrust, hp⟩ | ⟨htrust, hp⟩⟩
            · rw [hp]; trivial
            · rw [hp]
              have hpre : ρ.PreChecked k n q requester presented :=
                ⟨⟨registryFree, hm⟩, before, hnamed, hpasses⟩
              exact ⟨rfl, k, presented, Nat.lt_succ_self k, hpre, .inl htrust⟩
            · rw [hp]
              exact ⟨rfl, htrust, k, Nat.lt_succ_self k, ⟨registryFree, hm⟩, before, hnamed,
                hpasses⟩
        | answered verdict call context before =>
          obtain ⟨hcall, htrust, i, hik, hpre⟩ := ih before
          subst hcall
          rcases Authority.conclude_progress (ρ.world k).state context verdict with
            ⟨e, -, hp⟩ | ⟨g, hjudge, hp⟩
          · rw [hp]; trivial
          · rw [hp]
            exact ⟨rfl, i, context.session, Nat.lt_succ_of_lt hik, hpre,
              .inr ⟨htrust, k, verdict, hik, Nat.lt_succ_self k, ⟨hm, before⟩, hjudge⟩⟩
        | abandoned call progress before => trivial

end Run

end Admittance
