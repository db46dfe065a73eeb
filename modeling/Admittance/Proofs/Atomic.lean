import Admittance.Proofs.Outcome
import Admittance.Proofs.Past

/-!
# Atomic joins

A join that runs undisturbed looks at the registry once.  What it comes to is compared here with
what comes of the phases of a join among other calls.  A refusal is the same whenever it is given
(`Authority.perform_join_refused`).  A commit does what the undisturbed join would do at the
moment of the commit (`Run.Commits.atomic`), and not only if the registry is still as the
pre-check found it: a trusted token that is gone meanwhile would be refused by the pre-check as
well, and one that is still live is bound to the machine and the identity that the pre-check has
seen.  Only a join that was verified again and whose token is gone meanwhile does what the same
request without its token would do.
-/

namespace Admittance

variable {η : Type}

/-- The request without its token. -/
def JoinRequest.withoutToken (q : JoinRequest) : JoinRequest := { q with sessionToken := none }

/-- The authority with a verifier that gives everybody the same answer. -/
def Authority.answering (a : Authority η) (verdict : Verdict) : Authority η :=
  { a with verifier := { a.verifier with verify := fun _ => verdict } }

namespace Join.Grant

/-- The verifier's answer behind a grant, if there is one. -/
def verdict (spare : Verdict) : Grant → Verdict
  | .reuse _ => spare
  | .verified v => .ok v

/-- The request that a commit amounts to: a token that is gone does not count for a join that was
verified again. -/
def request (r : Registry) (q : JoinRequest) : Grant → JoinRequest
  | .reuse _ => q
  | .verified _ =>
    match q.presentedToken with
    | some t => if r.IsLive t then q else q.withoutToken
    | none => q

end Join.Grant

/-! ## Refusals -/

namespace Authority

variable (a : Authority η) {s : State η} {q : JoinRequest} {requester : PeerAddress}
  {presented : Option Session} {e : AuthError × Log.Record}

/-- A refusal shows nothing. -/
lemma refuse_shown (s : State η) (e : AuthError × Log.Record) :
    (refuse s e).1.shown = s.shown ∧ (refuse s e).2 = .answered (.join (.error e.1)) :=
  ⟨s.shown_log e.2, rfl⟩

/-- An undisturbed join that its pre-check refuses. -/
lemma perform_join_refused (requester : PeerAddress) (verdict : Verdict)
    (hm : q.machineId.isEmpty = false)
    (h : Join.precheck s.registry q = .error e) :
    ((a.answering verdict).perform s (.join q requester)).1.shown = s.shown ∧
      ((a.answering verdict).perform s (.join q requester)).2 = .answered (.join (.error e.1)) := by
  rw [perform_join_of_precheck_error _ hm h]
  exact refuse_shown s e

/-- An undisturbed join that its verifier refuses. -/
lemma perform_join_rejected {verdict : Verdict} (hm : q.machineId.isEmpty = false)
    (h : Join.precheck s.registry q = .ok presented)
    (ht : Join.trusted a.verifier.policy presented = none)
    (hj : Join.judge requester q.machineId presented verdict = .error e) :
    ((a.answering verdict).perform s (.join q requester)).1.shown = s.shown ∧
      ((a.answering verdict).perform s (.join q requester)).2 = .answered (.join (.error e.1)) := by
  rw [perform_join_of_judge_error (a.answering verdict) hm h ht hj]
  have hrefused := refuse_shown (consult s ⟨q, requester, presented⟩ true) e
  rw [State.shown_consult] at hrefused
  exact hrefused

/-! ## Commits -/

/-- An undisturbed join that is verified commits. -/
lemma perform_join_verified (requester : PeerAddress) {v : Verified}
    (hm : q.machineId.isEmpty = false)
    (h : Join.precheck s.registry q = .ok presented)
    (ht : Join.trusted a.verifier.policy presented = none)
    (hnamed : v.identity.isEmpty = false)
    (hsame : ∀ x, presented = some x → x.identity = v.identity) :
    ∃ s' : State η, s'.shown = s.shown ∧
      (a.answering (.ok v)).perform s (.join q requester) =
        a.enterCommit s' q requester (.verified v) := by
  have hj : Join.judge requester q.machineId presented (.ok v) = .ok (.verified v) :=
    Join.judge_eq_ok.mpr ⟨v, rfl, hnamed, hsame, rfl⟩
  refine ⟨consult s ⟨q, requester, presented⟩ true, State.shown_consult .., ?_⟩
  rw [perform_join_of_judge_ok (a.answering (.ok v)) hm h ht hj]
  rfl

end Authority

namespace Run

variable {ρ : Run η}

/-- The session that a pre-check has seen is still the one of its token at the commit, if the token
is live. -/
lemma TokensDistinct.exists_same_session (h : ρ.TokensDistinct) {i k : Nat} {x : Session}
    (hik : i ≤ k) (hx : x ∈ (ρ.registry i).sessions) (hlive : (ρ.registry k).IsLive x.token) :
    ∃ y, (ρ.registry k).get? x.token = some y ∧ y.binding = x.binding := by
  obtain ⟨y, hy⟩ := Registry.isLive_iff_get?.mp hlive
  obtain ⟨hmem, htoken⟩ := Registry.get?_eq_some hy
  have hxy := h.binding_eq hik (Registry.binding_mem hx) (Registry.binding_mem hmem) htoken.symm
  exact ⟨y, hy, hxy.symm⟩

/-- The commit of a trusted join is atomic. -/
lemma Commits.atomic_of_reuse (h : ρ.TokensDistinct) {k n : Nat} {q : JoinRequest}
    {requester : PeerAddress} {t : SessionToken} (hcommits : ρ.Commits k n q requester (.reuse t))
    {s : State η} (hs : s.shown = (ρ.world k).state.shown) (verdict : Verdict) :
    ((ρ.authority.answering verdict).perform s (.join q requester)).1.shown =
        (ρ.committed k q requester (.reuse t)).1.shown ∧
      ((ρ.authority.answering verdict).perform s (.join q requester)).2 =
        (ρ.committed k q requester (.reuse t)).2 := by
  obtain ⟨i, presented, hgranted⟩ := hcommits.granted
  obtain ⟨hpolicy, x, rfl, rfl⟩ := hgranted.trusted
  obtain ⟨hx, hq, hmachine⟩ := hgranted.prechecked.presents
  have hnamed := hgranted.prechecked.named
  have hregistry : s.registry = ρ.registry k := State.registry_eq_of_shown hs
  by_cases hlive : (ρ.registry k).IsLive x.token
  · obtain ⟨y, hy, hyx⟩ := h.exists_same_session (Nat.le_of_lt hgranted.before) hx hlive
    have hmachine' : y.machineId = q.machineId :=
      (congrArg Binding.machineId hyx).trans hmachine
    have hpre : Join.precheck s.registry q = .ok (some y) := by
      rw [hregistry]
      exact Join.precheck_eq_ok_some.mpr ⟨x.token, hq, hy, hmachine'⟩
    have htrust : Join.trusted ρ.authority.verifier.policy (some y) = some (.reuse x.token) := by
      have hyt : y.token = x.token := congrArg Binding.token hyx
      rw [hpolicy, ← hyt]
      rfl
    rw [Authority.perform_join_of_trusted (ρ.authority.answering verdict) hnamed hpre htrust]
    exact (ρ.authority.enterCommit_forgetful q requester _).alike hs
  · -- The token is gone: the commit refuses what the pre-check would have refused.
    have hpre : Join.precheck s.registry q = .error (.sessionInvalid, .sessionUnknown x.token) := by
      rw [hregistry]
      exact Join.precheck_of_not_isLive hq hlive
    have hseat : Join.seat (ρ.registry k) (ρ.world k).state.now (ρ.authority.draw (ρ.drawn k)) q
        (.reuse x.token) = .error (.sessionInvalid, .sessionVanished x.token) := by
      simp only [Join.seat, Registry.get?_eq_none_iff.mpr hlive]
    obtain ⟨hshown, hanswer⟩ :=
      ρ.authority.perform_join_refused requester verdict hnamed hpre
    have hcommitted := ρ.authority.enterCommit_of_seat_eq_error requester hseat
    rw [committed, hcommitted, hshown, hanswer, State.shown_log]
    exact ⟨hs, rfl⟩

/-- A join that was verified once passes an undisturbed pre-check, as long as its token is live. -/
lemma Granted.passes_again (h : ρ.TokensDistinct) {i k n : Nat} {q : JoinRequest}
    {requester : PeerAddress} {presented : Option Session} {v : Verified}
    (hgranted : ρ.Granted i k n q requester presented (.verified v))
    (hlive : ∀ t, q.presentedToken = some t → (ρ.registry k).IsLive t) :
    ∃ presented', Join.precheck (ρ.registry k) q = .ok presented' ∧
      Join.trusted ρ.authority.verifier.policy presented' = none ∧
      ∀ y, presented' = some y → y.identity = v.identity := by
  obtain ⟨-, -, hsame⟩ := hgranted.verified
  cases hq : q.presentedToken with
  | none =>
    exact ⟨none, Join.precheck_eq_ok_none.mpr hq, Join.trusted_eq_none.mpr (.inl rfl), by simp⟩
  | some t =>
    obtain ⟨x, hx, rfl, rfl, hmachine⟩ := hgranted.prechecked.exists_session hq
    obtain ⟨y, hy, hyx⟩ :=
      h.exists_same_session (Nat.le_of_lt hgranted.before) hx (hlive x.token hq)
    have hpre : Join.precheck (ρ.registry k) q = .ok (some y) := Join.precheck_eq_ok_some.mpr
      ⟨x.token, hq, hy, (congrArg Binding.machineId hyx).trans hmachine⟩
    have hpolicy : ρ.authority.verifier.policy = .reverify :=
      (Join.trusted_eq_none.mp hgranted.untrusted).resolve_left (by simp)
    refine ⟨some y, hpre, Join.trusted_eq_none.mpr (.inr hpolicy), ?_⟩
    intro z hz
    rw [← Option.some.inj hz]
    exact (congrArg Binding.identity hyx).trans (hsame x rfl)

/-- The commit of a verified join is atomic; a token that is gone does not count. -/
lemma Commits.atomic_of_verified (h : ρ.TokensDistinct) {k n : Nat} {q : JoinRequest}
    {requester : PeerAddress} {v : Verified}
    (hcommits : ρ.Commits k n q requester (.verified v))
    {s : State η} (hs : s.shown = (ρ.world k).state.shown) :
    ((ρ.authority.answering (.ok v)).perform s
        (.join ((Join.Grant.verified v).request (ρ.registry k) q) requester)).1.shown =
        (ρ.committed k q requester (.verified v)).1.shown ∧
      ((ρ.authority.answering (.ok v)).perform s
        (.join ((Join.Grant.verified v).request (ρ.registry k) q) requester)).2 =
        (ρ.committed k q requester (.verified v)).2 := by
  obtain ⟨i, presented, hgranted⟩ := hcommits.granted
  obtain ⟨-, hidentity, -⟩ := hgranted.verified
  have hnamed := hgranted.prechecked.named
  have hregistry : s.registry = ρ.registry k := State.registry_eq_of_shown hs
  have hcommit : ∀ s' : State η, s'.shown = s.shown →
      (ρ.authority.enterCommit s' q requester (.verified v)).1.shown =
          (ρ.committed k q requester (.verified v)).1.shown ∧
        (ρ.authority.enterCommit s' q requester (.verified v)).2 =
          (ρ.committed k q requester (.verified v)).2 := fun s' hs' =>
    (ρ.authority.enterCommit_forgetful q requester _).alike (hs'.trans hs)
  by_cases hlive : ∀ t, q.presentedToken = some t → (ρ.registry k).IsLive t
  · have hrequest : (Join.Grant.verified v).request (ρ.registry k) q = q := by
      unfold Join.Grant.request
      dsimp only
      split
      · rename_i t hq
        rw [if_pos (hlive t hq)]
      · rfl
    obtain ⟨presented', hpre, htrust, hsame⟩ := hgranted.passes_again h hlive
    obtain ⟨s', hs', hperform⟩ := ρ.authority.perform_join_verified requester hnamed
      (hregistry ▸ hpre) htrust hidentity hsame
    rw [hrequest, hperform]
    exact hcommit s' hs'
  · -- The token is gone: without it, the pre-check has nothing to look up.
    push Not at hlive
    obtain ⟨t, hq, hgone⟩ := hlive
    have hrequest : (Join.Grant.verified v).request (ρ.registry k) q = q.withoutToken := by
      simp only [Join.Grant.request, hq, if_neg hgone]
    have hpre : Join.precheck s.registry q.withoutToken = .ok none :=
      Join.precheck_eq_ok_none.mpr rfl
    have hnamed' : q.withoutToken.machineId.isEmpty = false := hnamed
    obtain ⟨s', hs', hperform⟩ := ρ.authority.perform_join_verified requester hnamed' hpre
      (Join.trusted_eq_none.mpr (.inl rfl)) hidentity (by simp)
    rw [hrequest, hperform]
    -- A commit does not look at the token of its request.
    exact hcommit s' hs'

/-- **A commit is atomic.** -/
theorem Commits.atomic (h : ρ.TokensDistinct) {k n : Nat} {q : JoinRequest}
    {requester : PeerAddress} {g : Join.Grant} (hcommits : ρ.Commits k n q requester g)
    {s : State η} (hs : s.shown = (ρ.world k).state.shown) (spare : Verdict) :
    ((ρ.authority.answering (g.verdict spare)).perform s
        (.join (g.request (ρ.registry k) q) requester)).1.shown =
        (ρ.committed k q requester g).1.shown ∧
      ((ρ.authority.answering (g.verdict spare)).perform s
        (.join (g.request (ρ.registry k) q) requester)).2 = (ρ.committed k q requester g).2 := by
  cases g with
  | reuse t => exact hcommits.atomic_of_reuse h hs spare
  | verified v => exact hcommits.atomic_of_verified h hs

end Run

end Admittance
