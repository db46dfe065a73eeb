import Admittance.Authority
import Admittance.Proofs.Binding

/-!
# The phases of a join, one fact each

`Join.precheck`, `Join.trusted` and `Join.judge` decide; `Join.seat` finds or opens the session;
`Authority.enterCommit` attaches the connection to it.  This file says of each phase when it
succeeds and with what, so that nothing else has to look into it.  The last section puts the phases
together: five lemmas, one for each way in which an undisturbed join can come to its end.
-/

namespace Admittance

namespace Join

/-! ## Pre-check and judgement -/

/-- A token passes if it has a session, and one of this machine. -/
lemma checkToken_eq_ok {r : Registry} {t : SessionToken} {m : String} {x : Session} :
    checkToken r t m = .ok x ↔ r.get? t = some x ∧ x.machineId = m := by
  unfold checkToken
  cases hget : r.get? t with
  | none => simp
  | some y =>
    by_cases hm : y.machineId = m
    · simp only [hm, if_true, Except.ok.injEq, Option.some.injEq]
      exact ⟨fun h => ⟨h, h ▸ hm⟩, fun h => h.1⟩
    · simp only [hm, if_false, Option.some.injEq, reduceCtorEq, false_iff]
      rintro ⟨rfl, h⟩
      exact hm h

/-- A pre-check finds nothing just when nothing is presented. -/
lemma precheck_eq_ok_none {r : Registry} {q : JoinRequest} :
    precheck r q = .ok none ↔ q.presentedToken = none := by
  unfold precheck
  cases q.presentedToken with
  | none => simp
  | some t => cases h : checkToken r t q.machineId <;> simp [Except.map, h]

/-- A pre-check finds the session of the token that is presented, if it is one of this machine. -/
lemma precheck_eq_ok_some {r : Registry} {q : JoinRequest} {x : Session} :
    precheck r q = .ok (some x) ↔
      ∃ t, q.presentedToken = some t ∧ r.get? t = some x ∧ x.machineId = q.machineId := by
  unfold precheck
  cases q.presentedToken with
  | none => simp
  | some t =>
    have hmap : (checkToken r t q.machineId).map some = .ok (some x) ↔
        checkToken r t q.machineId = .ok x := by
      cases checkToken r t q.machineId <;> simp [Except.map]
    simp [hmap, checkToken_eq_ok]

/-- A token that is not live is refused. -/
lemma precheck_of_not_isLive {r : Registry} {q : JoinRequest} {t : SessionToken}
    (hq : q.presentedToken = some t) (ht : ¬ r.IsLive t) :
    precheck r q = .error (.sessionInvalid, .sessionUnknown t) := by
  simp only [precheck, hq, checkToken, Registry.get?_eq_none_iff.mpr ht, Except.map]

/-- A session is enough by itself under one policy only. -/
lemma trusted_eq_some {policy : SessionPolicy} {presented : Option Session} {g : Grant} :
    trusted policy presented = some g ↔
      policy = .trustToken ∧ ∃ x, presented = some x ∧ g = .reuse x.token := by
  cases policy <;> cases presented <;> simp [trusted, eq_comm]

/-- A verifier decides unless the policy trusts tokens and a token is presented. -/
lemma trusted_eq_none {policy : SessionPolicy} {presented : Option Session} :
    trusted policy presented = none ↔ presented = none ∨ policy = .reverify := by
  cases policy <;> cases presented <;> simp [trusted]

/-- A verifier's answer entitles to a commit if it names an identity, and no other one than a
presented session has. -/
lemma judge_eq_ok {requester : PeerAddress} {m : String} {presented : Option Session}
    {verdict : Verdict} {g : Grant} :
    judge requester m presented verdict = .ok g ↔
      ∃ v, verdict = .ok v ∧ v.identity.isEmpty = false ∧
        (∀ x, presented = some x → x.identity = v.identity) ∧ g = .verified v := by
  unfold judge
  cases verdict with
  | error f => simp
  | ok v =>
    simp only [Except.ok.injEq, exists_eq_left']
    split
    · rename_i hempty
      simp [hempty]
    · rename_i hempty
      rw [Bool.not_eq_true] at hempty
      cases presented with
      | none => simp only [hempty, Except.ok.injEq, reduceCtorEq, false_implies, implies_true,
          true_and, eq_comm]
      | some x =>
        simp only [hempty, Option.some.injEq, forall_eq', true_and]
        split
        · rename_i hi
          simp only [hi, true_and, Except.ok.injEq, eq_comm]
        · rename_i hi
          simp [hi]

/-! ## Finding or opening the session -/

/-- The binding of a session that a join opens. -/
def newBinding (now : Instant) (fresh : SessionToken) (q : JoinRequest) (v : Verified) : Binding :=
  ⟨fresh, q.machineId, v.identity, q.conferenceName, now⟩

/-- How a join comes by a session. -/
inductive Seated (r : Registry) (now : Instant) (drawing : Drawing) (q : JoinRequest) :
    Grant → Seat → Prop
  /-- It uses the session of its own token, which is still live. -/
  | trusted (x : Session) (hmem : x ∈ r.sessions) :
      Seated r now drawing q (.reuse x.token) ⟨r, x.token, false, []⟩
  /-- It uses the session that its machine and identity have already. -/
  | found (v : Verified) (x : Session) (hmem : x ∈ r.sessions)
      (machine : x.machineId = q.machineId) (identity : x.identity = v.identity) :
      Seated r now drawing q (.verified v) ⟨r, x.token, false, []⟩
  /-- It opens a session. -/
  | opened (v : Verified) (none : r.findByIdentity? q.machineId v.identity = none)
      (r' : Registry)
      (bindings : r'.bindings = r.bindings ++ [newBinding now (r.freshToken drawing) q v])
      (sink : r'.sink = r.sink) (notices : List Notice)
      (reports : notices =
        (r.creationRecords drawing q.machineId v.identity q.conferenceName).map .record ++
          r.report (.created (r.freshToken drawing) v.identity q.machineId v.properties)) :
      Seated r now drawing q (.verified v) ⟨r', r.freshToken drawing, true, notices⟩

/-- A session that is found or opened for a join is one of the two. -/
lemma seated_of_seat_eq_ok {r : Registry} {now : Instant} {drawing : Drawing} {q : JoinRequest}
    {g : Grant} {st : Seat} (h : seat r now drawing q g = .ok st) :
    Seated r now drawing q g st := by
  cases g with
  | reuse t =>
    cases hget : r.get? t with
    | none => simp [seat, hget] at h
    | some x =>
      obtain ⟨hmem, rfl⟩ := Registry.get?_eq_some hget
      simp only [seat, hget, Except.ok.injEq] at h
      exact h ▸ .trusted x hmem
  | verified v =>
    cases hfind : r.findByIdentity? q.machineId v.identity with
    | some x =>
      obtain ⟨hmem, hm, hi⟩ := Registry.findByIdentity?_eq_some hfind
      simp only [seat, hfind, Except.ok.injEq] at h
      exact h ▸ .found v x hmem hm hi
    | none =>
      simp only [seat, hfind, Except.ok.injEq] at h
      subst h
      exact .opened v hfind _ (Registry.bindings_create ..) rfl _ rfl

/-- Only a token that was trusted and is gone leaves a join without a session. -/
lemma seat_eq_error {r : Registry} {now : Instant} {drawing : Drawing} {q : JoinRequest}
    {g : Grant} {e : AuthError × Log.Record} (h : seat r now drawing q g = .error e) :
    ∃ t, g = .reuse t ∧ ¬ r.IsLive t ∧ e = (.sessionInvalid, .sessionVanished t) := by
  cases g with
  | reuse t =>
    cases hget : r.get? t with
    | none =>
      simp only [seat, hget, Except.error.injEq] at h
      exact ⟨t, rfl, Registry.get?_eq_none_iff.mp hget, h.symm⟩
    | some x => simp [seat, hget] at h
  | verified v =>
    cases hfind : r.findByIdentity? q.machineId v.identity <;> simp [seat, hfind] at h

/-- The session that a join came by is live. -/
lemma Seated.isLive {r : Registry} {now : Instant} {drawing : Drawing} {q : JoinRequest}
    {g : Grant} {st : Seat} (h : Seated r now drawing q g st) : st.registry.IsLive st.token := by
  cases h with
  | trusted x hmem => exact Registry.isLive_of_mem (Registry.binding_mem hmem)
  | found v x hmem _ _ => exact Registry.isLive_of_mem (Registry.binding_mem hmem)
  | opened v _ r' bindings _ _ _ =>
    have hmem : newBinding now (r.freshToken drawing) q v ∈ r'.bindings := by simp [bindings]
    exact Registry.isLive_of_mem hmem

end Join

namespace Authority

variable {η : Type}

/-! ## The commit -/

/-- The state after a join has come by a session. -/
def takeSeat (s : State η) (st : Join.Seat) : State η :=
  { s with
    registry := st.registry
    drawn := if st.drew then s.drawn + 1 else s.drawn }.note st.notices

/-- The state after a join has attached its connection to a session and told the listeners. -/
def attachAndAnnounce (a : Authority η) (s : State η) (requester : PeerAddress) (x : Session) :
    State η :=
  let attached := afterOperation s (s.registry.attach s.now x.token requester)
  a.announce (attached.log (.peerAuthenticated requester x.identity x.token)) requester
    (x.usedBy requester s.now)

/-- A commit without a session answers so and changes nothing. -/
lemma enterCommit_of_seat_eq_error (a : Authority η) (requester : PeerAddress) {s : State η}
    {q : JoinRequest} {g : Join.Grant} {e : AuthError × Log.Record}
    (h : Join.seat s.registry s.now (a.draw s.drawn) q g = .error e) :
    a.enterCommit s q requester g = (s.log e.2, .answered (.join (.error e.1))) := by
  simp [enterCommit, enterCommitBy, Join.commit, h, State.log]

/-- A commit with a session attaches the connection and answers with that session. -/
lemma enterCommit_of_seat_eq_ok (a : Authority η) (requester : PeerAddress) {s : State η}
    {q : JoinRequest} {g : Join.Grant} {st : Join.Seat} {x : Session}
    (h : Join.seat s.registry s.now (a.draw s.drawn) q g = .ok st)
    (hx : st.registry.get? st.token = some x) :
    a.enterCommit s q requester g =
      (a.attachAndAnnounce (takeSeat s st) requester x,
        .answered (.join (.ok ⟨x.identity, x.token⟩))) := by
  obtain ⟨-, htoken⟩ := Registry.get?_eq_some hx
  have hattach : (st.registry.attach s.now st.token requester).value =
      some (x.usedBy requester s.now) := by
    rw [Registry.attach_value, hx]
    rfl
  have hused : (x.usedBy requester s.now).identity = x.identity ∧
      (x.usedBy requester s.now).token = st.token := ⟨rfl, htoken⟩
  simp only [enterCommit, enterCommitBy, Join.commit, h, hattach, attachAndAnnounce, takeSeat,
    afterOperation, State.log, State.note, htoken, hused, List.map_append, List.append_assoc,
    Join.response]

/-- A commit always answers. -/
lemma exists_enterCommit_eq (a : Authority η) (s : State η) (q : JoinRequest)
    (requester : PeerAddress) (g : Join.Grant) :
    ∃ s' result, a.enterCommit s q requester g = (s', .answered (.join result)) := by
  unfold enterCommit enterCommitBy
  dsimp only
  split
  · exact ⟨_, _, rfl⟩
  · exact ⟨_, _, rfl⟩

/-! ## The whole join -/

section Whole

variable (a : Authority η) {s : State η} {q : JoinRequest} {requester : PeerAddress}
  {presented : Option Session} {g : Join.Grant} {e : AuthError × Log.Record}

/-- Nothing is left to do for a call that has been answered. -/
lemma proceed_answered (s : State η) (answer : Answer) :
    a.proceed (s, .answered answer) = (s, .answered answer) := rfl

/-- A join without a machine is refused. -/
lemma perform_join_of_unnamed (hm : q.machineId.isEmpty = true) :
    a.perform s (.join q requester) = refuse s (Join.refuseUnnamed requester) := by
  simp only [perform, arrive, hm, if_true, refuse, proceed_answered]

/-- A join that does not pass its pre-check is refused. -/
lemma perform_join_of_precheck_error (hm : q.machineId.isEmpty = false)
    (h : Join.precheck s.registry q = .error e) :
    a.perform s (.join q requester) = refuse s e := by
  simp only [perform, arrive, hm, Bool.false_eq_true, if_false, proceed, enter, enterPrecheck, h,
    refuse, verifyAtOnce]

/-- A join whose token is trusted goes on to its commit. -/
lemma perform_join_of_trusted (hm : q.machineId.isEmpty = false)
    (h : Join.precheck s.registry q = .ok presented)
    (ht : Join.trusted a.verifier.policy presented = some g) :
    a.perform s (.join q requester) = a.enterCommit s q requester g := by
  obtain ⟨s', result, hcommit⟩ := exists_enterCommit_eq a s q requester g
  simp only [perform, arrive, hm, Bool.false_eq_true, if_false, proceed, enter, enterPrecheck, h,
    ht, verifyAtOnce, hcommit]

/-- A join whose verifier's answer is not enough is refused. -/
lemma perform_join_of_judge_error (hm : q.machineId.isEmpty = false)
    (h : Join.precheck s.registry q = .ok presented)
    (ht : Join.trusted a.verifier.policy presented = none)
    (hj : Join.judge requester q.machineId presented
      (a.verifier.verify ⟨q, requester, presented⟩) = .error e) :
    a.perform s (.join q requester) =
      refuse (consult s ⟨q, requester, presented⟩ true) e := by
  simp only [perform, arrive, hm, Bool.false_eq_true, if_false, proceed, enter, enterPrecheck, h,
    ht, verifyAtOnce, conclude, hj, refuse]

/-- A join whose verifier's answer is enough goes on to its commit. -/
lemma perform_join_of_judge_ok (hm : q.machineId.isEmpty = false)
    (h : Join.precheck s.registry q = .ok presented)
    (ht : Join.trusted a.verifier.policy presented = none)
    (hj : Join.judge requester q.machineId presented
      (a.verifier.verify ⟨q, requester, presented⟩) = .ok g) :
    a.perform s (.join q requester) =
      a.enterCommit (consult s ⟨q, requester, presented⟩ true) q requester g := by
  obtain ⟨s', result, hcommit⟩ :=
    exists_enterCommit_eq a (consult s ⟨q, requester, presented⟩ true) q requester g
  simp only [perform, arrive, hm, Bool.false_eq_true, if_false, proceed, enter, enterPrecheck, h,
    ht, verifyAtOnce, conclude, hj, hcommit]

end Whole

end Authority

end Admittance
