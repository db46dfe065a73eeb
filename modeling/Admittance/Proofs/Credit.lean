import Admittance.Proofs.Report

/-!
# Every removal is credited once

Several removers may be after the same session at the same time: two callers log out with its
token, a third removes it by name, its conference ends, and a sweeper finds that it has been idle
for too long.  Each of them gets the registry at a moment of its own and answers for what it finds
then.  Counted over a whole run, the session is in exactly one of these answers once it is gone,
and in none while it is live: what a move is credited with is the difference that it makes to the
list of bindings (`Told`), and a token that is gone does not come back.  `Run.creditedOnce` says so,
and adds that a sink hears of exactly the credited removals, and how a logout tells whether it has
won.
-/

namespace Admittance

variable {η : Type}

/-- The token and the reason of an event that is a removal. -/
def Event.removal? : Event → Option (SessionToken × RemovalReason)
  | .created .. => none
  | .destroyed token _ _ reason => some (token, reason)

namespace Run

variable {ρ : Run η} {k : Nat} {t : SessionToken}

/-- How often a removal of the session of a token has been credited in the first `k` moves. -/
def credited (ρ : Run η) (k : Nat) (t : SessionToken) : Nat :=
  (ρ.credits k).countP fun credit => credit.1 = t

/-- The credits for a token grow by those of each move. -/
lemma credited_succ (ρ : Run η) (k : Nat) (t : SessionToken) :
    ρ.credited (k + 1) t =
      ρ.credited k t + (ρ.creditsAt k).countP fun credit => credit.1 = t := by
  rw [credited, credits_succ, List.countP_append]
  rfl

/-! ## Counting -/

/-- A token was live in one of the first `k` worlds and is not live any more. -/
def Gone (ρ : Run η) (k : Nat) (t : SessionToken) : Prop :=
  (∃ j ≤ k, (ρ.registry j).IsLive t) ∧ ¬ (ρ.registry k).IsLive t

/-- In the next world those tokens are gone that were gone and those that have been removed. -/
lemma TokensDistinct.gone_succ (h : ρ.TokensDistinct) :
    ρ.Gone (k + 1) t ↔
      ρ.Gone k t ∨ (ρ.registry k).IsLive t ∧ ¬ (ρ.registry (k + 1)).IsLive t := by
  constructor
  · rintro ⟨⟨j, hj, hlive⟩, hgone⟩
    have hjk : j ≤ k := by
      rcases Nat.le_succ_iff.mp hj with hj | rfl
      · exact hj
      · exact absurd hlive hgone
    by_cases hk : (ρ.registry k).IsLive t
    · exact .inr ⟨hk, hgone⟩
    · exact .inl ⟨⟨j, hjk, hlive⟩, hk⟩
  · rintro (⟨⟨j, hj, hlive⟩, hgone⟩ | ⟨hlive, hgone⟩)
    · exact ⟨⟨j, Nat.le_succ_of_le hj, hlive⟩, h.not_isLive_succ hj hlive hgone⟩
    · exact ⟨⟨k, Nat.le_succ k, hlive⟩, hgone⟩

/-- What a move is credited with is what it removes. -/
lemma countP_creditsAt (ρ : Run η) (k : Nat) (t : SessionToken) :
    (ρ.creditsAt k).countP (fun credit => credit.1 = t) =
      if (ρ.registry k).IsLive t ∧ ¬ (ρ.registry (k + 1)).IsLive t then 1 else 0 := by
  have htold := ρ.told k
  generalize ρ.creditsAt k = credits at htold
  cases htold with
  | opened b _ bindings _ _ _ =>
    have hstays : ¬ ((ρ.registry k).IsLive t ∧ ¬ (ρ.registry (k + 1)).IsLive t) := by
      rintro ⟨hlive, hgone⟩
      obtain ⟨b', hb', rfl⟩ := Registry.exists_binding_of_isLive hlive
      have hmem : b' ∈ (ρ.registry (k + 1)).bindings := bindings ▸ List.mem_append_left _ hb'
      exact hgone (Registry.isLive_of_mem hmem)
    rw [if_neg hstays]
    rfl
  | removed doomed reason bindings _ _ =>
    have hcount : (((ρ.registry k).bindings.filter doomed).map fun b => (b.token, reason)).countP
        (fun credit => credit.1 = t) =
          (((ρ.registry k).bindings.filter (·.token = t)).filter doomed).length := by
      rw [List.countP_map, List.countP_eq_length_filter, List.filter_filter, List.filter_filter]
      exact congrArg List.length (List.filter_congr fun b _ => Bool.and_comm _ _)
    -- Of the sessions that the move removes, at most one has this token.
    refine hcount.trans ?_
    rcases (ρ.registry k).bindings_of_token t with ⟨b, hb, rfl, honly⟩ | ⟨hdead, hnone⟩
    · have hlive : (ρ.registry k).IsLive b.token := Registry.isLive_of_mem hb
      have hstays : (ρ.registry (k + 1)).IsLive b.token ↔ doomed b = false :=
        Registry.isLive_iff_of_filter bindings hb
      rw [honly]
      cases hdoomed : doomed b with
      | true =>
        have hgone : ¬ (ρ.registry (k + 1)).IsLive b.token := by simp [hstays, hdoomed]
        rw [if_pos ⟨hlive, hgone⟩, List.filter_cons_of_pos hdoomed]
        rfl
      | false =>
        rw [if_neg fun h => h.2 (hstays.mpr hdoomed)]
        simp [hdoomed]
    · rw [hnone, if_neg fun h => hdead h.1]
      rfl

/-- **A removal is credited once**: to each token that is gone, and to no other one. -/
theorem credited_eq (h : ρ.TokensDistinct) (k : Nat) (t : SessionToken) :
    (ρ.Gone k t → ρ.credited k t = 1) ∧ (¬ ρ.Gone k t → ρ.credited k t = 0) := by
  induction k with
  | zero =>
    refine ⟨?_, fun _ => rfl⟩
    rintro ⟨⟨j, hj, hlive⟩, hgone⟩
    obtain rfl : j = 0 := Nat.le_zero.mp hj
    exact absurd hlive hgone
  | succ k ih =>
    rw [h.gone_succ, credited_succ, countP_creditsAt]
    by_cases hgone : ρ.Gone k t
    · have hdead : ¬ (ρ.registry k).IsLive t := hgone.2
      rw [ih.1 hgone, if_neg fun hremoved => hdead hremoved.1]
      exact ⟨fun _ => rfl, fun hnot => absurd (.inl hgone) hnot⟩
    · rw [ih.2 hgone, Nat.zero_add]
      refine ⟨fun hnow => if_pos (hnow.resolve_left hgone), fun hnot => if_neg fun hremoved => ?_⟩
      exact hnot (.inr hremoved)

/-! ## What is heard and answered -/

/-- **A sink hears of the credited removals**, each once and for the reason of its remover. -/
theorem removals_chronicle (h : ρ.Recorded) (k : Nat) :
    (ρ.chronicle k).filterMap Event.removal? = ρ.credits k := by
  induction k with
  | zero =>
    rw [h.chronicle_zero]
    rfl
  | succ k ih =>
    cases h.written k with
    | opened b properties _ _ _ chronicle credits =>
      rw [chronicle, credits_succ, credits, List.filterMap_append, ih]
      rfl
    | removed doomed reason _ chronicle credits =>
      rw [chronicle, credits_succ, credits, List.filterMap_append, ih, List.filterMap_map]
      exact congrArg (ρ.credits k ++ ·) (congrFun List.filterMap_eq_map _)

/-- Where a move enters a section of a call and gives an answer, it is this call's. -/
lemma Answers.flight_eq {n : Nat} {answer : Answer} {call : Call}
    (h : ρ.Answers k n answer) (hentered : ρ.entered? k = some (.whole call)) :
    ρ.Stands (k + 1) n call (.answered answer) := by
  obtain ⟨i, registryFree, call', hmove, hstands⟩ := entered?_eq_some hentered
  obtain ⟨rfl, -⟩ := ρ.explained k hstands
  obtain ⟨call', hafter⟩ := World.answer?_eq_some.mp h.2
  have hworld := hafter
  rw [world_succ hmove] at hworld
  rcases World.flight_step ρ.authority (ρ.world k) (.enter i registryFree) n with
    hsame | ⟨f, hf, hadvance⟩
  · have hbefore := World.answer?_eq_some.mpr ⟨call', hsame ▸ hworld⟩
    exact absurd (h.1.symm.trans hbefore) (by simp)
  · obtain rfl : f = ⟨call', some (.answered answer)⟩ := Option.some.inj (hf.symm.trans hworld)
    generalize hfinal : (⟨call', some (.answered answer)⟩ : Flight) = f at hadvance
    cases hadvance with
    | entered _ call'' pending before =>
      have hcall : call' = call'' := congrArg Flight.call hfinal
      have hcall' : call'' = call :=
        congrArg Flight.call (Option.some.inj (before.symm.trans hstands))
      rw [hcall.trans hcall'] at hafter
      exact hafter

/-- What is answered neither to a join nor without a word is answered by a call that holds the
registry. -/
lemma Answers.whole {n : Nat} {call : Call} {answer : Answer} (h : ρ.Answers k n answer)
    (hstands : ρ.Stands (k + 1) n call (.answered answer))
    (hjoin : ∀ result, answer ≠ .join result) (hdone : answer ≠ .done) :
    ρ.entered? k = some (.whole call) ∧
      answer = (ρ.authority.runWhole (ρ.world k).state call).2 := by
  cases answered h with
  | unheard why =>
    rcases why with ⟨e, he⟩ | hdone'
    · exact absurd he (hjoin _)
    · exact absurd hdone' hdone
  | committed q requester g commits answer_eq =>
    obtain ⟨s', result, hcommit⟩ :=
      Authority.exists_enterCommit_eq ρ.authority (ρ.world k).state q requester g
    rw [committed, hcommit] at answer_eq
    exact absurd (Progress.answered.inj answer_eq).symm (hjoin result)
  | whole call' hentered answer_eq =>
    have hflight := Option.some.inj (hstands.symm.trans (h.flight_eq hentered))
    obtain rfl : call = call' := congrArg Flight.call hflight
    exact ⟨hentered, answer_eq⟩

/-- A call is credited when it holds the registry. -/
lemma creditsAt_of_entered {call : Call} (h : ρ.entered? k = some (.whole call)) :
    ρ.creditsAt k = ρ.authority.credits (ρ.world k).state call := by
  cases hm : ρ.moves[k]? with
  | none => simp [entered?, hm] at h
  | some m =>
    simp only [entered?, hm, Option.bind_eq_bind, Option.bind_some] at h
    simp only [creditsAt, hm, Move.credits, h]

/-- A call is credited with what its answer says. -/
lemma Answers.creditsAt {n : Nat} {call : Call} {answer : Answer} (h : ρ.Answers k n answer)
    (hstands : ρ.Stands (k + 1) n call (.answered answer))
    (hjoin : ∀ result, answer ≠ .join result) (hdone : answer ≠ .done) :
    ρ.creditsAt k = call.credits answer := by
  obtain ⟨hentered, rfl⟩ := h.whole hstands hjoin hdone
  rw [creditsAt_of_entered hentered]
  cases call with
  | conferenceEnded name => exact absurd rfl hdone
  | _ => rfl

/-- A logout wins if its session is live, and then it knows where to go from the session as it was;
otherwise it is refused. -/
inductive LoggedOut (ρ : Run η) (k : Nat) (t : SessionToken) :
    Except AuthError LogoutResponse → Prop
  | won (x : Session) (found : (ρ.registry k).get? t = some x)
      (gone : ¬ (ρ.registry (k + 1)).IsLive t)
      (credit : ρ.creditsAt k = [(t, .destroyed)]) :
      LoggedOut ρ k t (.ok ⟨ρ.authority.verifier.logoutUrl x⟩)
  | lost (gone : ¬ (ρ.registry k).IsLive t) (credit : ρ.creditsAt k = []) :
      LoggedOut ρ k t (.error .sessionInvalid)

/-- **How a logout is answered.** -/
theorem loggedOut {n : Nat} {result : Except AuthError LogoutResponse}
    (hanswers : ρ.Answers k n (.logout result))
    (hstands : ρ.Stands (k + 1) n (.logout t) (.answered (.logout result))) :
    ρ.LoggedOut k t result := by
  have hcredit := hanswers.creditsAt hstands (by simp) (by simp)
  obtain ⟨-, hanswer⟩ := hanswers.whole hstands (by simp) (by simp)
  have hresult : result = (ρ.authority.logout (ρ.world k).state t).2 := Answer.logout.inj hanswer
  cases hget : (ρ.registry k).get? t with
  | none =>
    rw [registry] at hget
    simp only [Authority.logout, hget] at hresult
    subst hresult
    exact .lost (Registry.get?_eq_none_iff.mp hget) hcredit
  | some x =>
    have hx := hget
    rw [registry] at hget
    simp only [Authority.logout, hget] at hresult
    subst hresult
    refine .won x hx (fun hback => ?_) hcredit
    have hcount := ρ.countP_creditsAt k t
    rw [hcredit, if_neg fun hremoved => hremoved.2 hback] at hcount
    simp [Call.credits] at hcount

/-- Every removal is credited once, in the first `k` moves. -/
structure CreditedOnce (ρ : Run η) (k : Nat) : Prop where
  /-- Of a token that was live, one removal is credited if it is gone, and none if it is not. -/
  once : ∀ t, (∃ j ≤ k, (ρ.registry j).IsLive t) →
    ρ.credited k t = if (ρ.registry k).IsLive t then 0 else 1
  /-- A sink that takes every event hears of the credited removals, each once, for the reason of its
  remover. -/
  heard : ρ.Recorded → (ρ.chronicle k).filterMap Event.removal? = ρ.credits k
  /-- Credit goes by the answers: to a logout that succeeds, to a removal by name that found its
  session, and to a purge and a sweep for all sessions that they name. -/
  answered : ∀ j n call answer, ρ.Answers j n answer →
    ρ.Stands (j + 1) n call (.answered answer) → (∀ result, answer ≠ .join result) →
      answer ≠ .done → ρ.creditsAt j = call.credits answer
  /-- A logout wins or is refused. -/
  loggedOut : ∀ j n t result, ρ.Answers j n (.logout result) →
    ρ.Stands (j + 1) n (.logout t) (.answered (.logout result)) → ρ.LoggedOut j t result

/-- **Every removal is credited once.** -/
theorem creditedOnce (h : ρ.TokensDistinct) (k : Nat) : ρ.CreditedOnce k := by
  refine ⟨fun t hlived => ?_, fun hrecorded => removals_chronicle hrecorded k,
    fun j n call answer hanswers => hanswers.creditsAt, fun j n t result => loggedOut⟩
  by_cases hlive : (ρ.registry k).IsLive t
  · rw [if_pos hlive]
    exact (credited_eq h k t).2 fun hgone => hgone.2 hlive
  · rw [if_neg hlive]
    exact (credited_eq h k t).1 ⟨hlived, hlive⟩

/-- Two logouts, a purge and a removal by name compete for one session, and a sweeper comes last. -/
def contested : Run Unit where
  authority := .sample .trustToken
  start := .initial 0 (some ⟨"log", false⟩) ()
  moves := [.arrive 0 (.create "desk" "ann" "room" .empty), .enter 0 true,
    .arrive 1 (.logout (.ofNumber 0)), .arrive 2 (.logout (.ofNumber 0)), .arrive 3 (.purge "room"),
    .arrive 4 (.destroy (.ofNumber 0)), .enter 2 true, .enter 3 true, .enter 1 true, .enter 4 true,
    .wait 10, .sweep ⟨.zero, .zero, .awake 20⟩]

/-- One of the five removers has the session. -/
theorem contested_creditedOnce :
    contested.TokensDistinct ∧ contested.Recorded ∧ contested.CreditedOnce 12 ∧
      contested.credits 12 = [(.ofNumber 0, .destroyed)] := by
  have hdistinct : contested.TokensDistinct := by decide
  have hrecorded : contested.Recorded := ⟨rfl, rfl, ⟨⟨"log", false⟩, rfl, rfl⟩, by decide⟩
  exact ⟨hdistinct, hrecorded, creditedOnce hdistinct 12, by decide⟩

end Run

end Admittance
