import Admittance.Proofs.Outcome

/-!
# What comes to nothing changes nothing

A join can be refused before its pre-check, in it, for its verifier's answer and at its commit, and
its caller can go away at every wait.  All moves of such a join leave the state `Unchanged`, each at
its own moment, whatever others do in between; the same holds of a logout whose token is unknown.
The reason is that a call which is settled stays as it is (`World.flight_step_of_settled`), so that
what a fruitless call did at its last section is known from its end: if it had come by a session,
its attachment could not have failed any more, and it would have been let in.
-/

namespace Admittance

variable {η : Type}

/-! ## Calls that come to nothing -/

namespace Flight

/-- Nothing will happen to the call any more: it has been answered, or nobody waits for it. -/
def Settled (f : Flight) : Prop :=
  f.progress = none ∨ ∃ answer, f.progress = some (.answered answer)

/-- The call has come to nothing. -/
inductive Fruitless : Flight → Prop
  /-- Its caller went away before it was answered. -/
  | abandoned (call : Call) : Fruitless ⟨call, none⟩
  /-- It is a join that was refused. -/
  | refused (q : JoinRequest) (requester : PeerAddress) (e : AuthError) :
      Fruitless ⟨.join q requester, some (.answered (.join (.error e)))⟩
  /-- It is a logout that was refused. -/
  | unknown (t : SessionToken) (e : AuthError) :
      Fruitless ⟨.logout t, some (.answered (.logout (.error e)))⟩

/-- A call that came to nothing is settled. -/
lemma Fruitless.settled {f : Flight} (h : f.Fruitless) : f.Settled := by
  cases h with
  | abandoned call => exact .inl rfl
  | refused q requester e => exact .inr ⟨_, rfl⟩
  | unknown t e => exact .inr ⟨_, rfl⟩

/-- An answer that comes to nothing refuses a join or a logout. -/
lemma Fruitless.of_answered {call : Call} {answer : Answer}
    (h : Fruitless ⟨call, some (.answered answer)⟩) :
    (∃ q requester e, call = .join q requester ∧ answer = .join (.error e)) ∨
      ∃ t e, call = .logout t ∧ answer = .logout (.error e) := by
  cases h with
  | refused q requester e => exact .inl ⟨q, requester, e, rfl, rfl⟩
  | unknown t e => exact .inr ⟨t, e, rfl, rfl⟩

end Flight

namespace Authority

variable (a : Authority η) (s : State η)

/-- A commit that refuses the join changes nothing, for it has come by no session. -/
lemma enterCommit_unchanged {q : JoinRequest} {requester : PeerAddress} {g : Join.Grant}
    {e : AuthError} (h : (a.enterCommit s q requester g).2 = .answered (.join (.error e))) :
    Unchanged s (a.enterCommit s q requester g).1 := by
  cases hseat : Join.seat s.registry s.now (a.draw s.drawn) q g with
  | error refusal =>
    rw [a.enterCommit_of_seat_eq_error requester hseat]
    exact .log s refusal.2
  | ok st =>
    obtain ⟨x, hx⟩ := Registry.isLive_iff_get?.mp (Join.seated_of_seat_eq_ok hseat).isLive
    rw [a.enterCommit_of_seat_eq_ok requester hseat hx] at h
    exact absurd h (by simp)

/-- A logout that is refused changes nothing. -/
lemma logout_unchanged {t : SessionToken} {e : AuthError} (h : (a.logout s t).2 = .error e) :
    Unchanged s (a.logout s t).1 := by
  cases hget : s.registry.get? t with
  | none =>
    simp only [logout, hget]
    exact .refl s
  | some x =>
    simp only [logout, hget] at h
    exact absurd h (by simp)

end Authority

/-- A call that is settled stays as it is. -/
lemma World.flight_step_of_settled (a : Authority η) {w : World η} (m : Move) {n : Nat}
    {f : Flight} (hf : w.flight n = some f) (hsettled : f.Settled) :
    (w.step a m).flight n = some f := by
  rcases flight_step a w m n with hsame | ⟨f', hf', hadvance⟩
  · exact hsame.trans hf
  · cases hadvance with
    | arrived call before => exact absurd (hf.symm.trans before) (by simp)
    | entered _ call pending before =>
      obtain rfl := Option.some.inj (hf.symm.trans before)
      exact absurd hsettled (by simp [Flight.Settled])
    | answered _ call context before =>
      obtain rfl := Option.some.inj (hf.symm.trans before)
      exact absurd hsettled (by simp [Flight.Settled])
    | abandoned call progress before =>
      obtain rfl := Option.some.inj (hf.symm.trans before)
      rcases hsettled with hnone | ⟨answer, hanswer⟩
      · obtain rfl : progress = none := hnone
        exact hf'
      · obtain rfl : progress = some (.answered answer) := hanswer
        simp only [step, hf]

namespace Run

variable {ρ : Run η} {k n : Nat}

/-- A settled call stays as it is. -/
lemma flight_of_settled {i : Nat} {f : Flight} (hik : i ≤ k) (hf : (ρ.world i).flight n = some f)
    (hsettled : f.Settled) : (ρ.world k).flight n = some f := by
  induction k, hik using Nat.le_induction with
  | base => exact hf
  | succ k _ ih =>
    cases hm : ρ.moves[k]? with
    | none => rwa [world_succ_of_none hm]
    | some m =>
      rw [world_succ hm]
      exact World.flight_step_of_settled ρ.authority m ih hsettled

/-- Two worlds in which a call is settled agree about it. -/
lemma flight_eq_of_settled {i j : Nat} {f f' : Flight} (hf : (ρ.world i).flight n = some f)
    (hf' : (ρ.world j).flight n = some f') (hsettled : f.Settled) (hsettled' : f'.Settled) :
    f = f' := by
  rcases Nat.le_total i j with hij | hji
  · exact Option.some.inj ((flight_of_settled hij hf hsettled).symm.trans hf')
  · exact Option.some.inj (hf.symm.trans (flight_of_settled hji hf' hsettled'))

/-! ## Moves of a call that comes to nothing -/

/-- The last section of a call that comes to nothing changes nothing. -/
lemma unchanged_of_fruitless {K : Nat} {f : Flight} {call : Call} {pending : Section}
    {registryFree : Bool} (hf : (ρ.world K).flight n = some f) (hfruitless : f.Fruitless)
    (hmove : ρ.moves[k]? = some (.enter n registryFree))
    (hstands : ρ.Stands k n call (.waiting pending)) :
    Unchanged (ρ.world k).state
      (ρ.authority.enterAndConsult (ρ.world k).state pending registryFree).1 := by
  have hflight : (ρ.world k).flight n = some ⟨call, some (.waiting pending)⟩ := hstands
  have hafter : (ρ.world (k + 1)).flight n = some ⟨call, some
      (ρ.authority.enterAndConsult (ρ.world k).state pending registryFree).2⟩ := by
    rw [world_succ hmove]
    simp only [World.step, hflight, World.flight_put, if_true]
  -- Where the section answers, this answer is what the call has come to.
  have hend : ∀ answer,
      (ρ.authority.enterAndConsult (ρ.world k).state pending registryFree).2 = .answered answer →
        Flight.Fruitless ⟨call, some (.answered answer)⟩ := by
    intro answer hanswer
    rw [hanswer] at hafter
    exact flight_eq_of_settled hf hafter hfruitless.settled (.inr ⟨answer, rfl⟩) ▸ hfruitless
  have hexplained := ρ.explained k hstands
  cases pending with
  | precheck q requester =>
    exact (ρ.authority.enterPrecheck_unchanged _ q requester).trans
      (ρ.authority.enterAndConsult_unchanged _ (.precheck q requester) registryFree)
  | commit q requester g =>
    obtain ⟨rfl, -⟩ := hexplained
    rw [Authority.enterAndConsult_commit] at hend ⊢
    obtain ⟨s', result, hcommit⟩ :=
      Authority.exists_enterCommit_eq ρ.authority (ρ.world k).state q requester g
    have hanswer := congrArg Prod.snd hcommit
    rcases (hend (.join result) hanswer).of_answered with ⟨_, _, e, -, he⟩ | ⟨_, _, -, he⟩
    · rw [he] at hanswer
      exact ρ.authority.enterCommit_unchanged _ hanswer
    · exact absurd he (by simp)
  | whole pending =>
    obtain ⟨rfl, hnot⟩ := hexplained
    rw [Authority.enterAndConsult_whole] at hend ⊢
    rcases (hend _ rfl).of_answered with ⟨q, requester, _, hcall, -⟩ | ⟨t, e, rfl, he⟩
    · exact absurd hcall (hnot q requester)
    · exact ρ.authority.logout_unchanged _ (Answer.logout.inj he)

/-- **A call that comes to nothing changes nothing**, by none of its moves. -/
theorem unchanged_of_number {K : Nat} {f : Flight} (hf : (ρ.world K).flight n = some f)
    (hfruitless : f.Fruitless) {m : Move} (hm : ρ.moves[k]? = some m)
    (hn : m.number? = some n) : Unchanged (ρ.world k).state (ρ.world (k + 1)).state := by
  have hturn := (ρ.world k).turn ρ.authority m
  rw [world_succ hm]
  cases hentered : m.entered? (ρ.world k) with
  | some pending =>
    have hsection : ρ.entered? k = some pending := by
      simp only [entered?, hm, Option.bind_eq_bind, Option.bind_some, hentered]
    obtain ⟨i, registryFree, call, hmove, hstands⟩ := entered?_eq_some hsection
    obtain rfl : m = .enter i registryFree := Option.some.inj (hm.symm.trans hmove)
    obtain rfl : i = n := Option.some.inj hn
    have hflight : (ρ.world k).flight i = some ⟨call, some (.waiting pending)⟩ := hstands
    simp only [World.step, hflight]
    exact unchanged_of_fruitless hf hfruitless hmove hstands
  | none =>
    rw [hentered] at hturn
    generalize ((ρ.world k).step ρ.authority m).state = s' at hturn ⊢
    cases hturn with
    | swept | purged | waited | relisted => exact absurd hn (by simp [Move.number?])
    | idle _ _ _ _ unchanged => exact unchanged

/-- A join that is refused or abandoned changes nothing, and neither does a logout that is
refused. -/
structure RefusalsUnchanged (ρ : Run η) : Prop where
  /-- No move of a call that comes to nothing changes anything. -/
  unchanged : ∀ K n f, (ρ.world K).flight n = some f → f.Fruitless →
    ∀ k m, ρ.moves[k]? = some m → m.number? = some n →
      Unchanged (ρ.world k).state (ρ.world (k + 1)).state
  /-- Once a commit has come by a session, its attachment succeeds and the join is let in. -/
  seated : ∀ k n q requester g, ρ.Commits k n q requester g →
    ∀ st, Join.seat (ρ.registry k) (ρ.world k).state.now (ρ.authority.draw (ρ.drawn k)) q g =
        .ok st →
      (st.registry.attach (ρ.world k).state.now st.token requester).value.isSome = true ∧
        ∃ response, ρ.Joins k n q requester response

/-- **A request that comes to nothing changes nothing.** -/
theorem unchanged_of_refused (ρ : Run η) : ρ.RefusalsUnchanged := by
  refine ⟨fun K n f hf hfruitless k m hm hn => unchanged_of_number hf hfruitless hm hn, ?_⟩
  intro k n q requester g hcommits st hseat
  obtain ⟨x, hx⟩ := Registry.isLive_iff_get?.mp (Join.seated_of_seat_eq_ok hseat).isLive
  obtain ⟨-, hanswer⟩ := committed_silent requester hseat hx
  refine ⟨?_, _, (hcommits.answers hanswer).1, (hcommits.answers hanswer).2⟩
  rw [Registry.attach_value, hx]
  rfl

end Run

end Admittance
