import Admittance.Proofs.Simulation

/-!
# Joins might as well be atomic

A run and its serial run show the same after every move: the registry, the events and what
listeners hear and do.  Every call has the same answer in both (`Run.serializable`).  The joins of
the serial run are the joins of the run, each at a moment of its own (`Run.Linearizes`) and with
the answer that its verifier gives in the run.  Only a join that is verified again although its
token was removed after its pre-check stands there without its token.
-/

namespace Admittance.Run

variable {η : Type} {ρ : Run η} {spare : Verdict}

/-! ## Moments of joins -/

/-- The moments at which a join of the run may be atomic, with its request and its verifier's
answer. -/
inductive Linearizes (ρ : Run η) (k n : Nat) : JoinRequest → PeerAddress → Verdict → Prop
  /-- A request without a machine is refused when it arrives. -/
  | unnamed (q : JoinRequest) (requester : PeerAddress) (verdict : Verdict)
      (arrives : ρ.moves[k]? = some (.arrive n (.join q requester)))
      (unnamed : q.machineId.isEmpty = true) : Linearizes ρ k n q requester verdict
  /-- It is refused by its pre-check. -/
  | refused (q : JoinRequest) (requester : PeerAddress) (verdict : Verdict) (registryFree : Bool)
      (move : ρ.moves[k]? = some (.enter n registryFree))
      (stands : ρ.Stands k n (.join q requester) (.waiting (.precheck q requester)))
      (e : AuthError × Log.Record) (refused : Join.precheck (ρ.registry k) q = .error e) :
      Linearizes ρ k n q requester verdict
  /-- It passes its pre-check, and is refused for what its verifier answers later. -/
  | rejected (q : JoinRequest) (requester : PeerAddress) (verdict : Verdict)
      (presented : Option Session) (prechecked : ρ.PreChecked k n q requester presented)
      (j : Nat) (later : k < j) (consulted : ρ.Consulted j n ⟨q, requester, presented⟩ verdict)
      (e : AuthError × Log.Record)
      (rejected : Join.judge requester q.machineId presented verdict = .error e) :
      Linearizes ρ k n q requester verdict
  /-- It commits, trusted for its token. -/
  | trusted (q : JoinRequest) (requester : PeerAddress) (verdict : Verdict) (t : SessionToken)
      (commits : ρ.Commits k n q requester (.reuse t)) : Linearizes ρ k n q requester verdict
  /-- It commits after its verifier's answer, and its token is still live if it presents one. -/
  | verified (q : JoinRequest) (requester : PeerAddress) (v : Verified)
      (commits : ρ.Commits k n q requester (.verified v)) (j : Nat) (earlier : j < k)
      (presented : Option Session) (consulted : ρ.Consulted j n ⟨q, requester, presented⟩ (.ok v))
      (live : ∀ t, q.presentedToken = some t → (ρ.registry k).IsLive t) :
      Linearizes ρ k n q requester (.ok v)
  /-- It commits after its verifier's answer, and its token has been removed since its pre-check. -/
  | stale (q : JoinRequest) (requester : PeerAddress) (v : Verified)
      (commits : ρ.Commits k n q requester (.verified v)) (j : Nat) (earlier : j < k)
      (presented : Option Session) (consulted : ρ.Consulted j n ⟨q, requester, presented⟩ (.ok v))
      (reverified : ρ.authority.verifier.policy = .reverify) (t : SessionToken)
      (presents : q.presentedToken = some t) (i : Nat) (before : i < j)
      (prechecked : ρ.PreChecked i n q requester presented) (live : (ρ.registry i).IsLive t)
      (gone : ¬ (ρ.registry k).IsLive t) : Linearizes ρ k n q.withoutToken requester (.ok v)

/-- An answer that the verifier is going to give a waiting join is given it. -/
lemma exists_consulted {n : Nat} (context : VerifyContext) {verdict : Verdict} (d : Nat) {k : Nat}
    (hd : ρ.moves.length ≤ k + d)
    (hstands : ρ.Stands k n (.join context.request context.peer) (.verifying context))
    (hverdict : ρ.verdictFrom k n = some verdict) :
    ∃ j, k ≤ j ∧ ρ.Consulted j n context verdict := by
  induction d generalizing k with
  | zero =>
    have hend : ρ.moves.length ≤ k := hd
    rw [verdictFrom, List.drop_of_length_le hend] at hverdict
    exact absurd hverdict (by simp [verdictIn])
  | succ d ih =>
    have hflight : (ρ.world k).flight n =
        some ⟨.join context.request context.peer, some (.verifying context)⟩ := hstands
    cases hm : ρ.moves[k]? with
    | none =>
      rw [verdictFrom, List.drop_of_length_le (List.getElem?_eq_none_iff.mp hm)] at hverdict
      exact absurd hverdict (by simp [verdictIn])
    | some m =>
      rw [verdictFrom_eq hm] at hverdict
      -- Unless the move is the answer, the join still waits after it.
      have hlater : (ρ.world (k + 1)).flight n = (ρ.world k).flight n →
          ρ.verdictFrom (k + 1) n = some verdict →
            ∃ j, k ≤ j ∧ ρ.Consulted j n context verdict := by
        intro hsame hverdict'
        obtain ⟨j, hkj, hconsulted⟩ := ih (by omega) (hsame.trans hflight) hverdict'
        exact ⟨j, Nat.le_of_succ_le hkj, hconsulted⟩
      by_cases hn : m.number? = some n
      · cases m with
        | arrive i call =>
          obtain rfl : i = n := Option.some.inj hn
          refine hlater ?_ hverdict
          rw [world_succ hm]
          simp only [World.step, hflight]
        | enter i registryFree =>
          obtain rfl : i = n := Option.some.inj hn
          refine hlater ?_ hverdict
          rw [world_succ hm, World.step_enter_of_not_waiting _ _ (by simp [hflight])]
        | answer i verdict' =>
          obtain rfl : i = n := Option.some.inj hn
          rw [verdictIn, if_pos rfl] at hverdict
          obtain rfl : verdict' = verdict := Option.some.inj hverdict
          exact ⟨k, le_rfl, hm, hstands⟩
        | abandon i =>
          obtain rfl : i = n := Option.some.inj hn
          rw [verdictIn, if_pos rfl] at hverdict
          exact absurd hverdict (by simp)
        | wait | sweep | receive | relist => exact absurd hn (by simp [Move.number?])
      · rw [verdictIn_cons_of_ne hn] at hverdict
        refine hlater ?_ hverdict
        rw [world_succ hm, World.flight_step_of_ne hn]

/-- A serial join at a commit. -/
lemma Commits.linearizes {k n : Nat} {q : JoinRequest} {requester : PeerAddress} {g : Join.Grant}
    (hcommits : ρ.Commits k n q requester g) (spare : Verdict) :
    ρ.Linearizes k n (g.request (ρ.registry k) q) requester (g.verdict spare) := by
  cases g with
  | reuse t => exact .trusted q requester spare t hcommits
  | verified v =>
    obtain ⟨i, presented, hgranted⟩ := hcommits.granted
    obtain ⟨⟨j, hij, hjk, hconsulted⟩, -, -⟩ := hgranted.verified
    cases hq : q.presentedToken with
    | none =>
      simp only [Join.Grant.request, hq]
      exact .verified q requester v hcommits j hjk presented hconsulted (by simp [hq])
    | some t =>
      by_cases hlive : (ρ.registry k).IsLive t
      · simp only [Join.Grant.request, hq, if_pos hlive]
        refine .verified q requester v hcommits j hjk presented hconsulted ?_
        intro t' ht'
        exact Option.some.inj (hq.symm.trans ht') ▸ hlive
      · obtain ⟨x, hx, rfl, rfl, -⟩ := hgranted.prechecked.exists_session hq
        have hpolicy : ρ.authority.verifier.policy = .reverify :=
          (Join.trusted_eq_none.mp hgranted.untrusted).resolve_left (by simp)
        simp only [Join.Grant.request, hq, if_neg hlive]
        exact .stale q requester v hcommits j hjk (some x) hconsulted hpolicy x.token hq i hij
          hgranted.prechecked (Registry.isLive_of_mem (Registry.binding_mem hx)) hlive

/-- A serial join at a pre-check. -/
lemma linearizes_of_serialPrecheck {k n : Nat} {q q' : JoinRequest}
    {requester requester' : PeerAddress} {i : Nat} {verdict : Verdict} {registryFree : Bool}
    (hm : ρ.moves[k]? = some (.enter n registryFree))
    (hstands : ρ.Stands k n (.join q requester) (.waiting (.precheck q requester)))
    (h : ρ.serialPrecheck spare k n q requester = .join i q' requester' verdict) :
    i = n ∧ ρ.Linearizes k n q' requester' verdict := by
  have hflight : (ρ.world k).flight n =
      some ⟨.join q requester, some (.waiting (.precheck q requester))⟩ := hstands
  obtain ⟨-, hnamed⟩ := ρ.explained k hstands
  rcases ρ.authority.enterPrecheck_progress (ρ.world k).state q requester with
    ⟨e, hpre, hp⟩ | ⟨presented, hpre, ⟨g, -, hp⟩ | ⟨-, hp⟩⟩
  · simp only [serialPrecheck, hp, Authority.refuse] at h
    obtain ⟨rfl, rfl, rfl, rfl⟩ := Serial.join.inj h
    exact ⟨rfl, .refused _ _ _ registryFree hm hstands e hpre⟩
  · simp only [serialPrecheck, hp] at h
    exact absurd h (by simp)
  · simp only [serialPrecheck, hp] at h
    split at h
    · rename_i e hrefusal
      obtain ⟨verdict', hverdict, hjudge⟩ := VerifyContext.refusal?_eq_some.mp hrefusal
      rw [hverdict, Option.getD_some] at h
      obtain ⟨rfl, rfl, rfl, rfl⟩ := Serial.join.inj h
      have hnext : ρ.Stands (k + 1) n (.join q requester)
          (.verifying ⟨q, requester, presented⟩) := by
        rw [Stands, world_succ hm]
        simp only [World.step, hflight, World.flight_put, if_true,
          Authority.enterAndConsult_precheck_progress, hp]
      obtain ⟨j, hkj, hconsulted⟩ :=
        exists_consulted ⟨q, requester, presented⟩ ρ.moves.length (Nat.le_add_left _ _) hnext
          hverdict
      exact ⟨rfl, .rejected _ _ _ presented ⟨⟨registryFree, hm⟩, hstands, hnamed, hpre⟩ j hkj
        hconsulted e hjudge⟩
    · exact absurd h (by simp)

/-- Every join of the serial run happens at a moment of its own, and its call has not happened
before. -/
lemma serial_join (hdistinct : ρ.TokensDistinct) {k n : Nat} {q : JoinRequest}
    {requester : PeerAddress} {verdict : Verdict}
    (h : ρ.serial spare k = .join n q requester verdict) :
    (ρ.serialWorld spare k).flight n = none ∧ ρ.Linearizes k n q requester verdict := by
  have halike := ρ.alike spare hdistinct k
  cases hm : ρ.moves[k]? with
  | none =>
    rw [serial, hm] at h
    exact absurd h (by simp)
  | some m =>
    simp only [serial, hm] at h
    cases m with
    | arrive i call =>
      simp only [serialOf] at h
      split at h
      · rename_i hflight
        cases call with
        | join q' requester' =>
          simp only [serialArrival] at h
          split at h
          · rename_i hunnamed
            obtain ⟨rfl, rfl, rfl, rfl⟩ := Serial.join.inj h
            exact ⟨(halike.flight i).not_arrived hflight, .unnamed _ _ _ hm hunnamed⟩
          · exact absurd h (by simp)
        | _ => exact absurd h (by simp [serialArrival])
      · exact absurd h (by simp)
    | enter i registryFree =>
      simp only [serialOf] at h
      -- A join happens at its pre-check if it is not going to commit, and else at its commit.
      split at h
      · rename_i call q' requester' hflight
        have hcall : call = .join q' requester' := (ρ.explained k hflight).1
        subst hcall
        obtain ⟨rfl, hlinearizes⟩ := linearizes_of_serialPrecheck hm hflight h
        exact ⟨(halike.flight n).eq_none hflight rfl rfl, hlinearizes⟩
      · rename_i call q' requester' g hflight
        have hcall : call = .join q' requester' := (ρ.explained k hflight).1
        subst hcall
        have hcommits : ρ.Commits k i q' requester' g := ⟨⟨registryFree, hm⟩, hflight⟩
        obtain ⟨rfl, rfl, rfl, rfl⟩ := Serial.join.inj h
        exact ⟨(halike.flight i).eq_none hflight rfl rfl, hcommits.linearizes spare⟩
      · exact absurd h (by simp)
    | answer | abandon | wait | sweep | receive | relist =>
      exact absurd h (by simp [serialOf])

/-! ## Serializability -/

/-- The serial run shows and answers the same. -/
structure Serializes (ρ : Run η) (spare : Verdict) : Prop where
  /-- Both runs show the same after every move. -/
  shown : ∀ k, (ρ.serialWorld spare k).state.shown = (ρ.world k).state.shown
  /-- A call that has been answered has been given the same answer in the serial run. -/
  answered : ∀ k n answer, (ρ.world k).answer? n = some answer →
    (ρ.serialWorld spare k).answer? n = some answer
  /-- In the end, the same calls have been answered. -/
  answers : ∀ n, (ρ.serialWorld spare ρ.moves.length).answer? n = ρ.last.answer? n
  /-- A join of the serial run is never on its way. -/
  atomic : ∀ k n q requester progress,
    (ρ.serialWorld spare k).flight n = some ⟨.join q requester, progress⟩ →
      ∃ answer, progress = some (.answered answer)
  /-- A join of the serial run is a join of the run, at a moment of its own and for the first
  time. -/
  joins : ∀ k n q requester verdict, ρ.serial spare k = .join n q requester verdict →
    (ρ.serialWorld spare k).flight n = none ∧ ρ.Linearizes k n q requester verdict

/-- A call has the same answer in both runs, unless it is a join whose verifier will refuse it. -/
lemma Alike.answer?_eq {k : Nat} (h : ρ.Alike spare k) {n : Nat}
    (hverdict : ρ.verdictFrom k n = none) :
    (ρ.serialWorld spare k).answer? n = (ρ.world k).answer? n := by
  have hmatches := h.flight n
  rw [hverdict] at hmatches
  unfold World.answer?
  generalize (ρ.world k).flight n = f at hmatches ⊢
  generalize (ρ.serialWorld spare k).flight n = f' at hmatches ⊢
  cases hmatches with
  | absent => rfl
  | same g _ => rfl
  | unsettled g _ outcome => exact (g.outcome?_none.symm.trans outcome).symm
  | settled g call answer _ outcome => exact (g.outcome?_none.symm.trans outcome).symm

/-- **Joins might as well be atomic.** -/
theorem serializable (hdistinct : ρ.TokensDistinct) (spare : Verdict) : ρ.Serializes spare := by
  constructor
  case shown =>
    intro k
    exact (ρ.alike spare hdistinct k).shown
  case answered =>
    intro k n answer hanswer
    obtain ⟨call, hflight⟩ := World.answer?_eq_some.mp hanswer
    obtain ⟨call', hserialFlight⟩ := ((ρ.alike spare hdistinct k).flight n).answered hflight
    exact World.answer?_eq_some.mpr ⟨call', hserialFlight⟩
  case answers =>
    intro n
    have hverdict : ρ.verdictFrom ρ.moves.length n = none := by
      rw [verdictFrom, List.drop_length]
      rfl
    exact (ρ.alike spare hdistinct _).answer?_eq hverdict
  case atomic =>
    intro k n q requester progress hflight
    exact ((ρ.alike spare hdistinct k).flight n).answered_of_isJoin hflight rfl
  case joins =>
    intro k n q requester verdict h
    exact serial_join hdistinct h

/-- A session is given up while a join with its token waits for its verifier. -/
def overtaken : Run Unit where
  authority := .sample .reverify
  start := .initial 0 (some ⟨"log", false⟩) ()
  moves := [.arrive 0 (.create "desk" "ann" "room" .empty), .enter 0 true,
    .arrive 1 (.join ((JoinRequest.plain "desk" "room").withToken (.ofNumber 0)) ⟨"peer"⟩),
    .enter 1 true, .arrive 2 (.logout (.ofNumber 0)), .enter 2 true,
    .answer 1 (.ok (.plain "ann")), .enter 1 true]

/-- A join whose token is gone meanwhile has its place in the serial run. -/
theorem overtaken_serializes :
    overtaken.TokensDistinct ∧ overtaken.Serializes (.error (.rejected "unknown")) := by
  have hdistinct : overtaken.TokensDistinct := by decide
  exact ⟨hdistinct, serializable hdistinct _⟩

end Admittance.Run
