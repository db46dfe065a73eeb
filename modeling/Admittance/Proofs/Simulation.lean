import Admittance.Proofs.Serial

/-!
# The serial run shows the same

The relation between a run and its serial run says where the call of a number stands in the serial
run, given where it stands in the other one and what the verifier is going to answer
(`Flight.Matches`).  A call that is no join stands at the same place in both.  A join has not
arrived in the serial run until it happens there, and from then on it is answered.  Together with
the shown state this relation outlives every move (`Run.Alike.succ`); the moves of a join are the
interesting ones, and `Run.Commits.atomic` settles the last of them.
-/

namespace Admittance

variable {η : Type}

/-! ## Where calls stand in the serial run -/

/-- The call is a join. -/
def Call.isJoin : Call → Bool
  | .join .. => true
  | _ => false

/-- What a join that stands here will be answered in any case, given what its verifier is going to
answer. -/
def Flight.outcome? (verdict? : Option Verdict) (f : Flight) : Option Answer :=
  match f.progress with
  | some (.answered answer) => some answer
  | some (.verifying context) =>
    (context.refusal? verdict?).map fun refusal => .join (.error refusal.1)
  | _ => none

/-- A verifier that is not going to answer settles nothing. -/
lemma Flight.outcome?_none (f : Flight) : f.outcome? none = f.answer? := by
  obtain ⟨call, _ | progress⟩ := f
  · rfl
  · cases progress <;> rfl

/-- How the call of a number stands in the serial run if it stands thus in the other one. -/
inductive Flight.Matches (verdict? : Option Verdict) : Option Flight → Option Flight → Prop
  | absent : Matches verdict? none none
  | same (f : Flight) (other : f.call.isJoin = false) : Matches verdict? (some f) (some f)
  | unsettled (f : Flight) (join : f.call.isJoin = true) (outcome : f.outcome? verdict? = none) :
      Matches verdict? (some f) none
  | settled (f : Flight) (call : Call) (answer : Answer) (join : f.call.isJoin = true)
      (outcome : f.outcome? verdict? = some answer) :
      Matches verdict? (some f) (some ⟨call, some (.answered answer)⟩)

namespace Flight.Matches

variable {verdict? verdict'? : Option Verdict} {f f' : Option Flight}

/-- A call that has not arrived has not arrived in the serial run. -/
lemma not_arrived (h : Matches verdict? f f') (hf : f = none) : f' = none := by
  cases h with
  | absent => rfl
  | same | unsettled | settled => exact absurd hf (by simp)

/-- A call that has been answered has the same answer in the serial run. -/
lemma answered (h : Matches verdict? f f') {call : Call} {answer : Answer}
    (hf : f = some ⟨call, some (.answered answer)⟩) :
    ∃ call', f' = some ⟨call', some (.answered answer)⟩ := by
  cases h with
  | absent => exact absurd hf (by simp)
  | same g _ => exact ⟨call, hf⟩
  | unsettled g _ outcome =>
    rw [Option.some.inj hf] at outcome
    exact absurd outcome (by simp [outcome?])
  | settled g call' answer' _ outcome =>
    rw [Option.some.inj hf] at outcome
    obtain rfl : answer = answer' := Option.some.inj outcome
    exact ⟨call', rfl⟩

/-- What the verifier is going to answer matters only while a join waits for it. -/
lemma of_not_verifying (h : Matches verdict? f f')
    (hnot : ∀ call context, f ≠ some ⟨call, some (.verifying context)⟩) :
    Matches verdict'? f f' := by
  have houtcome : ∀ g : Flight, f = some g → g.outcome? verdict'? = g.outcome? verdict? := by
    intro g hg
    obtain ⟨call, progress⟩ := g
    match progress with
    | some (.verifying context) => exact absurd hg (hnot call context)
    | some (.answered _) | some (.waiting _) | none => rfl
  cases h with
  | absent => exact .absent
  | same g other => exact .same g other
  | unsettled g join outcome => exact .unsettled g join ((houtcome g rfl).trans outcome)
  | settled g call answer join outcome =>
    exact .settled g call answer join ((houtcome g rfl).trans outcome)

/-- A call that does not wait for the registry does not do so in the serial run either. -/
lemma not_waiting (h : Matches verdict? f f')
    (hnot : ∀ call pending, f ≠ some ⟨call, some (.waiting pending)⟩) (call : Call)
    (pending : Section) : f' ≠ some ⟨call, some (.waiting pending)⟩ := by
  cases h with
  | absent => simp
  | same g _ => exact hnot call pending
  | unsettled g _ _ => simp
  | settled g call' answer _ _ => simp

/-- A join that has not been answered has not arrived in the serial run. -/
lemma eq_none (h : Matches verdict? f f') {call : Call} {progress : Option Progress}
    (hf : f = some ⟨call, progress⟩) (hjoin : call.isJoin = true)
    (houtcome : (⟨call, progress⟩ : Flight).outcome? verdict? = none) : f' = none := by
  cases h with
  | absent => exact absurd hf (by simp)
  | same g other =>
    rw [Option.some.inj hf] at other
    exact absurd (hjoin.symm.trans other) (by simp)
  | unsettled g _ _ => rfl
  | settled g call' answer _ outcome =>
    rw [Option.some.inj hf, houtcome] at outcome
    exact absurd outcome (by simp)

/-- A join whose answer is settled has been given it in the serial run. -/
lemma eq_answered (h : Matches verdict? f f') {call : Call} {progress : Option Progress}
    {answer : Answer} (hf : f = some ⟨call, progress⟩) (hjoin : call.isJoin = true)
    (houtcome : (⟨call, progress⟩ : Flight).outcome? verdict? = some answer) :
    ∃ call', f' = some ⟨call', some (.answered answer)⟩ := by
  cases h with
  | absent => exact absurd hf (by simp)
  | same g other =>
    rw [Option.some.inj hf] at other
    exact absurd (hjoin.symm.trans other) (by simp)
  | unsettled g _ outcome =>
    rw [Option.some.inj hf, houtcome] at outcome
    exact absurd outcome (by simp)
  | settled g call' answer' _ outcome =>
    rw [Option.some.inj hf, houtcome] at outcome
    exact ⟨call', by rw [Option.some.inj outcome]⟩

/-- A call that does not wait for its verifier does not do so in the serial run either. -/
lemma not_verifying (h : Matches verdict? f f')
    (hnot : ∀ call context, f ≠ some ⟨call, some (.verifying context)⟩) (call : Call)
    (context : VerifyContext) : f' ≠ some ⟨call, some (.verifying context)⟩ := by
  cases h with
  | absent => simp
  | same g _ => exact hnot call context
  | unsettled g _ _ => simp
  | settled g call' answer _ _ => simp

/-- A call that is no join stands at the same place. -/
lemma eq_of_not_isJoin (h : Matches verdict? f f') {call : Call} {progress : Option Progress}
    (hf : f = some ⟨call, progress⟩) (hother : call.isJoin = false) : f' = f := by
  cases h with
  | absent => rfl
  | same g _ => rfl
  | unsettled g join _ =>
    rw [Option.some.inj hf] at join
    exact absurd (hother.symm.trans join) (by simp)
  | settled g call' answer join _ =>
    rw [Option.some.inj hf] at join
    exact absurd (hother.symm.trans join) (by simp)

/-- A join that has arrived in the serial run has been answered there. -/
lemma answered_of_isJoin (h : Matches verdict? f f') {call : Call} {progress : Option Progress}
    (hf' : f' = some ⟨call, progress⟩) (hjoin : call.isJoin = true) :
    ∃ answer, progress = some (.answered answer) := by
  cases h with
  | absent => exact absurd hf' (by simp)
  | same g other =>
    rw [Option.some.inj hf'] at other
    exact absurd (hjoin.symm.trans other) (by simp)
  | unsettled g _ _ => exact absurd hf' (by simp)
  | settled g call' answer _ _ =>
    have hprogress := congrArg Flight.progress (Option.some.inj hf')
    exact ⟨answer, hprogress.symm⟩

end Flight.Matches

/-! ## Moves and the calls that they are about -/

namespace World

variable (a : Authority η) {w : World η}

/-- Only a call that waits for the registry can get it. -/
lemma step_enter_of_not_waiting {n : Nat} (registryFree : Bool)
    (hnot : ∀ call pending, w.flight n ≠ some ⟨call, some (.waiting pending)⟩) :
    w.step a (.enter n registryFree) = w := by
  unfold step
  dsimp only
  split
  · rename_i call pending hflight
    exact absurd hflight (hnot call pending)
  · rfl

/-- Only a join that waits for its verifier can be given an answer. -/
lemma step_answer_of_not_verifying {n : Nat} (verdict : Verdict)
    (hnot : ∀ call context, w.flight n ≠ some ⟨call, some (.verifying context)⟩) :
    w.step a (.answer n verdict) = w := by
  unfold step
  dsimp only
  split
  · rename_i call context hflight
    exact absurd hflight (hnot call context)
  · rfl

/-- Only a call that has not been answered can be abandoned. -/
lemma step_abandon_of_settled {n : Nat}
    (hsettled : w.flight n = none ∨
      ∃ call answer, w.flight n = some ⟨call, some (.answered answer)⟩) :
    w.step a (.abandon n) = w := by
  rcases hsettled with hflight | ⟨call, answer, hflight⟩ <;> simp only [step, hflight]

/-- Whoever goes away leaves the call without an answer, and the state as it is. -/
lemma step_abandon {n : Nat} {call : Call} {progress : Option Progress}
    (hflight : w.flight n = some ⟨call, progress⟩)
    (hnot : ∀ answer, progress ≠ some (.answered answer)) :
    (w.step a (.abandon n)).state = w.state ∧
      (w.step a (.abandon n)).flight n = some ⟨call, none⟩ := by
  match progress, hflight, hnot with
  | some (.answered answer), _, hnot => exact absurd rfl (hnot answer)
  | some (.waiting _), hflight, _ | some (.verifying _), hflight, _ | none, hflight, _ =>
    simp only [step, hflight, Function.update_self, and_self]

/-- What happens in the background shows the same to whoever has been shown the same. -/
lemma shown_step_of_background {w' : World η} {m : Move} (hm : m.number? = none)
    (h : w'.state.shown = w.state.shown) :
    (w'.step a m).state.shown = (w.step a m).state.shown := by
  cases m with
  | arrive | enter | answer | abandon => exact absurd hm (by simp [Move.number?])
  | wait nanos =>
    have hwait : Forgetful fun s : State η => ({ s with now := s.now + nanos }, ()) :=
      fun _ _ => rfl
    exact (hwait.alike h).1
  | sweep sweeper => exact (sweeper.sweep_forgetful.alike h).1
  | receive hook channel =>
    exact ((hook.receive_forgetful a.config.destroyOnConferenceEnd channel).alike h).1
  | relist change =>
    have hrelist : Forgetful fun s : State η =>
        ({ s with listeners := (s.listeners.change change).1 }, ()) := fun _ _ => rfl
    exact (hrelist.alike h).1

end World

/-- A move leaves all calls where they are that it is not about. -/
lemma World.flight_step_of_ne {a : Authority η} {w : World η} {m : Move} {n : Nat}
    (hn : m.number? ≠ some n) : (w.step a m).flight n = w.flight n := by
  rcases flight_step a w m n with hsame | ⟨f, -, hadvance⟩
  · exact hsame
  · cases hadvance <;> exact absurd rfl hn

/-- A move of another call answers nothing to this one. -/
lemma verdictIn_cons_of_ne {m : Move} {n : Nat} (hn : m.number? ≠ some n) (rest : List Move) :
    verdictIn n (m :: rest) = verdictIn n rest := by
  cases m with
  | answer i verdict => exact if_neg fun h => hn (congrArg some h)
  | abandon i => exact if_neg fun h => hn (congrArg some h)
  | arrive | enter | wait | sweep | receive | relist => rfl

/-! ## The relation between the runs -/

namespace Run

variable {ρ : Run η} {spare : Verdict} {k : Nat}

/-- After `k` moves the serial run shows the same, and every call stands where it should. -/
structure Alike (ρ : Run η) (spare : Verdict) (k : Nat) : Prop where
  shown : (ρ.serialWorld spare k).state.shown = (ρ.world k).state.shown
  flight : ∀ n, Flight.Matches (ρ.verdictFrom k n) ((ρ.world k).flight n)
    ((ρ.serialWorld spare k).flight n)

/-- Both runs begin in one state. -/
lemma alike_zero (ρ : Run η) (spare : Verdict) : ρ.Alike spare 0 :=
  ⟨rfl, fun _ => .absent⟩

/-- A move of the run is some move of the serial run. -/
lemma serialWorld_succ {m : Move} (h : ρ.moves[k]? = some m) :
    ρ.serialWorld spare (k + 1) =
      (ρ.serialWorld spare k).serialStep ρ.authority (ρ.serialOf spare k m) := by
  simp only [serialWorld, serial, h]

/-- What the verifier is going to answer is told by this move or by a later one. -/
lemma verdictFrom_eq {m : Move} (h : ρ.moves[k]? = some m) (n : Nat) :
    ρ.verdictFrom k n = verdictIn n (m :: ρ.moves.drop (k + 1)) := by
  obtain ⟨hlt, rfl⟩ := List.getElem?_eq_some_iff.mp h
  rw [verdictFrom, List.drop_eq_getElem_cons hlt]

/-! ### All other calls -/

/-- A serial step is idle, the move itself, or a join of the call that the move is about. -/
lemma serialOf_cases (ρ : Run η) (spare : Verdict) (k : Nat) (m : Move) :
    ρ.serialOf spare k m = .idle ∨ ρ.serialOf spare k m = .move m ∨
      ∃ n q requester verdict, m.number? = some n ∧
        ρ.serialOf spare k m = .join n q requester verdict := by
  cases m with
  | arrive n call =>
    simp only [serialOf]
    split
    · unfold serialArrival
      split
      · split
        · exact .inr (.inr ⟨n, _, _, _, rfl, rfl⟩)
        · exact .inl rfl
      · exact .inr (.inl rfl)
    · exact .inl rfl
  | enter n registryFree =>
    simp only [serialOf]
    split
    · unfold serialPrecheck
      split
      · exact .inr (.inr ⟨n, _, _, _, rfl, rfl⟩)
      · exact .inl rfl
      · split
        · exact .inr (.inr ⟨n, _, _, _, rfl, rfl⟩)
        · exact .inl rfl
    · exact .inr (.inr ⟨n, _, _, _, rfl, rfl⟩)
    · exact .inr (.inl rfl)
  | answer | abandon | wait | sweep | receive | relist => exact .inr (.inl rfl)

/-- A serial step leaves all calls where they are that the move is not about. -/
lemma flight_serialStep_of_ne {m : Move} {n : Nat} (hn : m.number? ≠ some n) (w : World η) :
    (w.serialStep ρ.authority (ρ.serialOf spare k m)).flight n = w.flight n := by
  rcases ρ.serialOf_cases spare k m with h | h | ⟨i, q, requester, verdict, hi, h⟩
  · rw [h]; rfl
  · rw [h]; exact World.flight_step_of_ne hn
  · have hne : n ≠ i := fun heq => hn (heq ▸ hi)
    rw [h]
    simp only [World.serialStep, World.flight_put, if_neg hne]

/-- A move concerns the call that it is about and the shown state, nothing else. -/
lemma Alike.of_move (h : ρ.Alike spare k) {m : Move} (hm : ρ.moves[k]? = some m)
    (hshown : (ρ.serialWorld spare (k + 1)).state.shown = (ρ.world (k + 1)).state.shown)
    (hnumber : ∀ n, m.number? = some n → Flight.Matches (ρ.verdictFrom (k + 1) n)
      ((ρ.world (k + 1)).flight n) ((ρ.serialWorld spare (k + 1)).flight n)) :
    ρ.Alike spare (k + 1) := by
  refine ⟨hshown, fun n => ?_⟩
  by_cases hn : m.number? = some n
  · exact hnumber n hn
  · have hverdict : ρ.verdictFrom (k + 1) n = ρ.verdictFrom k n := by
      rw [verdictFrom_eq hm, verdictIn_cons_of_ne hn]
      rfl
    rw [hverdict, world_succ hm, serialWorld_succ hm, World.flight_step_of_ne hn,
      flight_serialStep_of_ne hn]
    exact h.flight n

/-- Only the call that a move is about has to be looked at. -/
lemma Alike.of_number (h : ρ.Alike spare k) {m : Move} {n : Nat} (hm : ρ.moves[k]? = some m)
    (hn : m.number? = some n)
    (hshown : (ρ.serialWorld spare (k + 1)).state.shown = (ρ.world (k + 1)).state.shown)
    (hmatches : Flight.Matches (ρ.verdictFrom (k + 1) n)
      ((ρ.world (k + 1)).flight n) ((ρ.serialWorld spare (k + 1)).flight n)) :
    ρ.Alike spare (k + 1) := by
  refine h.of_move hm hshown fun i hi => ?_
  obtain rfl : n = i := Option.some.inj (hn.symm.trans hi)
  exact hmatches

/-- A move that changes nothing in either run may still change what the verifier is going to answer
to the call that it is about. -/
lemma Alike.of_idle (h : ρ.Alike spare k) {m : Move} {n : Nat} (hm : ρ.moves[k]? = some m)
    (hn : m.number? = some n) (hworld : ρ.world (k + 1) = ρ.world k)
    (hserialWorld : ρ.serialWorld spare (k + 1) = ρ.serialWorld spare k)
    (hmatches : Flight.Matches (ρ.verdictFrom (k + 1) n) ((ρ.world k).flight n)
      ((ρ.serialWorld spare k).flight n)) : ρ.Alike spare (k + 1) := by
  refine h.of_number hm hn ?_ ?_
  · rw [hworld, hserialWorld]
    exact h.shown
  · rw [hworld, hserialWorld]
    exact hmatches

/-- A call goes on while nothing happens in the serial run. -/
lemma Alike.of_put (h : ρ.Alike spare k) {m : Move} {n : Nat} (hm : ρ.moves[k]? = some m)
    (hn : m.number? = some n) {call : Call} {reached : State η × Progress}
    (hworld : ρ.world (k + 1) = (ρ.world k).put n call reached)
    (hserialWorld : ρ.serialWorld spare (k + 1) = ρ.serialWorld spare k)
    (hshown : reached.1.shown = (ρ.world k).state.shown)
    (hmatches : Flight.Matches (ρ.verdictFrom (k + 1) n) (some ⟨call, some reached.2⟩)
      ((ρ.serialWorld spare k).flight n)) : ρ.Alike spare (k + 1) := by
  refine h.of_number hm hn ?_ ?_
  · rw [hworld, hserialWorld]
    exact h.shown.trans hshown.symm
  · rw [hworld, hserialWorld, World.flight_put, if_pos rfl]
    exact hmatches

/-- A call goes on in both runs. -/
lemma Alike.of_puts (h : ρ.Alike spare k) {m : Move} {n : Nat} (hm : ρ.moves[k]? = some m)
    (hn : m.number? = some n) {call call' : Call} {reached reached' : State η × Progress}
    (hworld : ρ.world (k + 1) = (ρ.world k).put n call reached)
    (hserialWorld : ρ.serialWorld spare (k + 1) = (ρ.serialWorld spare k).put n call' reached')
    (hshown : reached'.1.shown = reached.1.shown)
    (hmatches : Flight.Matches (ρ.verdictFrom (k + 1) n) (some ⟨call, some reached.2⟩)
      (some ⟨call', some reached'.2⟩)) : ρ.Alike spare (k + 1) := by
  refine h.of_number hm hn ?_ ?_
  · rw [hworld, hserialWorld]
    exact hshown
  · rw [hworld, hserialWorld, World.flight_put, World.flight_put, if_pos rfl, if_pos rfl]
    exact hmatches

/-! ### Arrivals -/

/-- A number that is taken cannot be taken again. -/
lemma Alike.arrive_taken (h : ρ.Alike spare k) {n : Nat} {call : Call} {f : Flight}
    (hm : ρ.moves[k]? = some (.arrive n call)) (hflight : (ρ.world k).flight n = some f) :
    ρ.Alike spare (k + 1) := by
  have hworld : ρ.world (k + 1) = ρ.world k := by
    rw [world_succ hm]
    simp only [World.step, hflight]
  have hserialWorld : ρ.serialWorld spare (k + 1) = ρ.serialWorld spare k := by
    rw [serialWorld_succ hm]
    simp only [serialOf, hflight, World.serialStep]
  have hverdict : ρ.verdictFrom (k + 1) n = ρ.verdictFrom k n := (verdictFrom_eq hm n).symm
  exact h.of_idle hm rfl hworld hserialWorld (hverdict ▸ h.flight n)

/-- A call that is no join arrives in both runs. -/
lemma Alike.arrive_other (h : ρ.Alike spare k) {n : Nat} {call : Call}
    (hm : ρ.moves[k]? = some (.arrive n call)) (hflight : (ρ.world k).flight n = none)
    (hother : call.isJoin = false) : ρ.Alike spare (k + 1) := by
  have hserialFlight : (ρ.serialWorld spare k).flight n = none :=
    (h.flight n).not_arrived hflight
  have hserial : ρ.serialOf spare k (.arrive n call) = .move (.arrive n call) := by
    simp only [serialOf, hflight]
    cases call with
    | join => exact absurd hother (by simp [Call.isJoin])
    | _ => rfl
  have hworld : ρ.world (k + 1) =
      (ρ.world k).put n call (ρ.authority.arrive (ρ.world k).state call) := by
    rw [world_succ hm]
    simp only [World.step, hflight]
  have hserialWorld : ρ.serialWorld spare (k + 1) = (ρ.serialWorld spare k).put n call
      (ρ.authority.arrive (ρ.serialWorld spare k).state call) := by
    rw [serialWorld_succ hm, hserial]
    simp only [World.serialStep, World.step, hserialFlight]
  obtain ⟨hshown, hprogress⟩ := (ρ.authority.arrive_forgetful call).alike h.shown
  refine h.of_puts hm rfl hworld hserialWorld hshown ?_
  rw [hprogress]
  exact .same _ hother

/-- A join arrives; only a join without a machine happens at once. -/
lemma Alike.arrive_join (h : ρ.Alike spare k) {n : Nat} {q : JoinRequest}
    {requester : PeerAddress} (hm : ρ.moves[k]? = some (.arrive n (.join q requester)))
    (hflight : (ρ.world k).flight n = none) : ρ.Alike spare (k + 1) := by
  have hserialFlight : (ρ.serialWorld spare k).flight n = none :=
    (h.flight n).not_arrived hflight
  have hworld : ρ.world (k + 1) = (ρ.world k).put n (.join q requester)
      (ρ.authority.arrive (ρ.world k).state (.join q requester)) := by
    rw [world_succ hm]
    simp only [World.step, hflight]
  have hserialWorld : ρ.serialWorld spare (k + 1) = (ρ.serialWorld spare k).serialStep
      ρ.authority (serialArrival n spare (.join q requester)) := by
    rw [serialWorld_succ hm]
    simp only [serialOf, hflight]
  cases hnamed : q.machineId.isEmpty with
  | true =>
    -- The join is refused at once, and so it happens here.
    have harrive : ρ.authority.arrive (ρ.world k).state (.join q requester) =
        Authority.refuse (ρ.world k).state (Join.refuseUnnamed requester) := by
      simp only [Authority.arrive, hnamed, if_true]
    have hperform : (ρ.authority.answering spare).perform (ρ.serialWorld spare k).state
        (.join q requester) =
        Authority.refuse (ρ.serialWorld spare k).state (Join.refuseUnnamed requester) :=
      Authority.perform_join_of_unnamed _ hnamed
    simp only [serialArrival, hnamed, if_true, World.serialStep] at hserialWorld
    rw [hperform] at hserialWorld
    rw [harrive] at hworld
    refine h.of_puts hm rfl hworld hserialWorld ?_ (.settled _ _ _ rfl rfl)
    exact ((State.shown_log ..).trans h.shown).trans (State.shown_log ..).symm
  | false =>
    have harrive : ρ.authority.arrive (ρ.world k).state (.join q requester) =
        ((ρ.world k).state, .waiting (.precheck q requester)) := by
      simp only [Authority.arrive, hnamed, Bool.false_eq_true, if_false]
    simp only [serialArrival, hnamed, Bool.false_eq_true, if_false, World.serialStep]
      at hserialWorld
    rw [harrive] at hworld
    refine h.of_put hm rfl hworld hserialWorld rfl ?_
    rw [hserialFlight]
    exact .unsettled _ rfl rfl

/-! ### Sections -/

/-- A call that is no join holds the registry in both runs. -/
lemma Alike.enter_whole (h : ρ.Alike spare k) {n : Nat} {registryFree : Bool} {call pending : Call}
    (hm : ρ.moves[k]? = some (.enter n registryFree))
    (hstands : ρ.Stands k n call (.waiting (.whole pending))) : ρ.Alike spare (k + 1) := by
  have hflight : (ρ.world k).flight n = some ⟨call, some (.waiting (.whole pending))⟩ := hstands
  have hother : call.isJoin = false := by
    obtain ⟨-, hnot⟩ := ρ.explained k hstands
    cases call with
    | join q requester => exact absurd rfl (hnot q requester)
    | _ => rfl
  have hserialFlight := ((h.flight n).eq_of_not_isJoin hflight hother).trans hflight
  have hworld : ρ.world (k + 1) = (ρ.world k).put n call
      (ρ.authority.enterAndConsult (ρ.world k).state (.whole pending) registryFree) := by
    rw [world_succ hm]
    simp only [World.step, hflight]
  have hserialWorld : ρ.serialWorld spare (k + 1) = (ρ.serialWorld spare k).put n call
      (ρ.authority.enterAndConsult (ρ.serialWorld spare k).state (.whole pending)
        registryFree) := by
    rw [serialWorld_succ hm]
    simp only [serialOf, hflight, World.serialStep, World.step, hserialFlight]
  obtain ⟨hshown, hanswer⟩ := (ρ.authority.runWhole_forgetful pending).alike h.shown
  rw [Authority.enterAndConsult_whole] at hworld hserialWorld
  refine h.of_puts hm rfl hworld hserialWorld hshown ?_
  rw [hanswer]
  exact .same _ hother

/-- A join that will not get to its commit happens at its pre-check. -/
lemma Alike.enter_precheck (h : ρ.Alike spare k) {n : Nat} {registryFree : Bool}
    {q : JoinRequest} {requester : PeerAddress}
    (hm : ρ.moves[k]? = some (.enter n registryFree))
    (hstands : ρ.Stands k n (.join q requester) (.waiting (.precheck q requester))) :
    ρ.Alike spare (k + 1) := by
  have hflight : (ρ.world k).flight n =
      some ⟨.join q requester, some (.waiting (.precheck q requester))⟩ := hstands
  obtain ⟨-, hnamed⟩ := ρ.explained k hstands
  have hserialFlight := (h.flight n).eq_none hflight rfl rfl
  have hregistry : (ρ.serialWorld spare k).state.registry = (ρ.world k).state.registry :=
    State.registry_eq_of_shown h.shown
  have hworld : ρ.world (k + 1) = (ρ.world k).put n (.join q requester)
      (ρ.authority.enterAndConsult (ρ.world k).state (.precheck q requester) registryFree) := by
    rw [world_succ hm]
    simp only [World.step, hflight]
  have hserialWorld : ρ.serialWorld spare (k + 1) = (ρ.serialWorld spare k).serialStep ρ.authority
      (ρ.serialPrecheck spare k n q requester) := by
    rw [serialWorld_succ hm]
    simp only [serialOf, hflight]
  rcases ρ.authority.enterPrecheck_progress (ρ.world k).state q requester with
    ⟨e, hpre, hp⟩ | ⟨presented, hpre, ⟨g, htrust, hp⟩ | ⟨htrust, hp⟩⟩
  · -- The pre-check refuses the join.
    simp only [serialPrecheck, hp, Authority.refuse, World.serialStep] at hserialWorld
    simp only [Authority.enterAndConsult, Authority.consulting, Authority.enter, hp,
      Authority.refuse] at hworld
    obtain ⟨hshown, hanswer⟩ :=
      ρ.authority.perform_join_refused requester spare hnamed (hregistry ▸ hpre)
    refine h.of_puts hm rfl hworld hserialWorld
      ((hshown.trans h.shown).trans (State.shown_log ..).symm) ?_
    rw [hanswer]
    exact .settled _ _ _ rfl rfl
  · -- The join is trusted, and will get to its commit.
    simp only [serialPrecheck, hp, World.serialStep] at hserialWorld
    simp only [Authority.enterAndConsult, Authority.consulting, Authority.enter, hp] at hworld
    refine h.of_put hm rfl hworld hserialWorld rfl ?_
    rw [hserialFlight]
    exact .unsettled _ rfl rfl
  · -- What becomes of the join is up to its verifier.
    simp only [serialPrecheck, hp] at hserialWorld
    simp only [Authority.enterAndConsult, Authority.consulting, Authority.enter, hp] at hworld
    cases hrefusal : VerifyContext.refusal? ⟨q, requester, presented⟩ (ρ.verdictFrom (k + 1) n) with
    | none =>
      simp only [hrefusal, World.serialStep] at hserialWorld
      refine h.of_put hm rfl hworld hserialWorld (State.shown_consult ..) ?_
      rw [hserialFlight]
      exact .unsettled _ rfl (by simp only [Flight.outcome?, hrefusal, Option.map_none])
    | some e =>
      obtain ⟨verdict, hverdict, hjudge⟩ := VerifyContext.refusal?_eq_some.mp hrefusal
      simp only [hrefusal, World.serialStep] at hserialWorld
      rw [hverdict, Option.getD_some] at hserialWorld
      obtain ⟨hshown, hanswer⟩ :=
        ρ.authority.perform_join_rejected hnamed (hregistry ▸ hpre) htrust hjudge
      refine h.of_puts hm rfl hworld hserialWorld
        ((hshown.trans h.shown).trans (State.shown_consult ..).symm) ?_
      rw [hanswer]
      exact .settled _ _ _ rfl (by simp only [Flight.outcome?, hrefusal, Option.map_some])

/-- A join that gets to its commit happens there. -/
lemma Alike.enter_commit (h : ρ.Alike spare k) (hdistinct : ρ.TokensDistinct) {n : Nat}
    {q : JoinRequest} {requester : PeerAddress} {g : Join.Grant}
    (hcommits : ρ.Commits k n q requester g) : ρ.Alike spare (k + 1) := by
  obtain ⟨registryFree, hm⟩ := hcommits.move
  have hflight : (ρ.world k).flight n =
      some ⟨.join q requester, some (.waiting (.commit q requester g))⟩ := hcommits.stands
  have hserialWorld : ρ.serialWorld spare (k + 1) = (ρ.serialWorld spare k).put n
      (.join (g.request (ρ.registry k) q) requester)
      ((ρ.authority.answering (g.verdict spare)).perform (ρ.serialWorld spare k).state
        (.join (g.request (ρ.registry k) q) requester)) := by
    rw [serialWorld_succ hm]
    simp only [serialOf, hflight, World.serialStep]
  obtain ⟨hshown, hanswer⟩ := hcommits.atomic hdistinct h.shown spare
  obtain ⟨s', result, hcommit⟩ :=
    Authority.exists_enterCommit_eq ρ.authority (ρ.world k).state q requester g
  have hprogress : (ρ.committed k q requester g).2 = .answered (.join result) :=
    congrArg Prod.snd hcommit
  refine h.of_puts hm rfl hcommits.world_succ hserialWorld hshown ?_
  rw [hanswer, hprogress]
  exact .settled _ _ _ rfl rfl

/-- Nothing happens to a call that does not wait for the registry. -/
lemma Alike.enter_idle (h : ρ.Alike spare k) {n : Nat} {registryFree : Bool}
    (hm : ρ.moves[k]? = some (.enter n registryFree))
    (hnot : ∀ call pending, (ρ.world k).flight n ≠ some ⟨call, some (.waiting pending)⟩) :
    ρ.Alike spare (k + 1) := by
  have hserial : ρ.serialOf spare k (.enter n registryFree) = .move (.enter n registryFree) := by
    simp only [serialOf]
    split
    · rename_i hflight
      exact absurd hflight (hnot _ _)
    · rename_i hflight
      exact absurd hflight (hnot _ _)
    · rfl
  have hworld : ρ.world (k + 1) = ρ.world k := by
    rw [world_succ hm, World.step_enter_of_not_waiting _ registryFree hnot]
  have hserialWorld : ρ.serialWorld spare (k + 1) = ρ.serialWorld spare k := by
    rw [serialWorld_succ hm, hserial, World.serialStep,
      World.step_enter_of_not_waiting _ registryFree ((h.flight n).not_waiting hnot)]
  have hverdict : ρ.verdictFrom (k + 1) n = ρ.verdictFrom k n := (verdictFrom_eq hm n).symm
  exact h.of_idle hm rfl hworld hserialWorld (hverdict ▸ h.flight n)

/-- A section keeps the relation. -/
lemma Alike.enter (h : ρ.Alike spare k) (hdistinct : ρ.TokensDistinct) {n : Nat}
    {registryFree : Bool} (hm : ρ.moves[k]? = some (.enter n registryFree)) :
    ρ.Alike spare (k + 1) := by
  by_cases hwaits : ∃ call pending, (ρ.world k).flight n = some ⟨call, some (.waiting pending)⟩
  · obtain ⟨call, pending, hstands⟩ := hwaits
    match pending, ρ.explained k hstands with
    | .whole pending, _ => exact h.enter_whole hm hstands
    | .precheck q requester, ⟨hcall, _⟩ => exact h.enter_precheck hm (hcall ▸ hstands)
    | .commit q requester g, ⟨hcall, _⟩ =>
      exact h.enter_commit hdistinct ⟨⟨registryFree, hm⟩, hcall ▸ hstands⟩
  · exact h.enter_idle hm fun call pending hflight => hwaits ⟨call, pending, hflight⟩

/-! ### Answers of the verifier -/

/-- The serial run has known the verifier's answer beforehand. -/
lemma Alike.answer_verifying (h : ρ.Alike spare k) {n : Nat} {verdict : Verdict} {call : Call}
    {context : VerifyContext} (hm : ρ.moves[k]? = some (.answer n verdict))
    (hstands : ρ.Stands k n call (.verifying context)) : ρ.Alike spare (k + 1) := by
  have hflight : (ρ.world k).flight n = some ⟨call, some (.verifying context)⟩ := hstands
  have hjoin : call.isJoin = true := by
    obtain ⟨hcall, -⟩ := ρ.explained k hstands
    rw [hcall]
    rfl
  have hverdict : ρ.verdictFrom k n = some verdict := by
    rw [verdictFrom_eq hm, verdictIn, if_pos rfl]
  have hworld : ρ.world (k + 1) = (ρ.world k).put n call
      (Authority.conclude (ρ.world k).state context verdict) := by
    rw [world_succ hm]
    simp only [World.step, hflight]
  have hstays : (∀ call' context', (ρ.serialWorld spare k).flight n ≠
      some ⟨call', some (.verifying context')⟩) →
      ρ.serialWorld spare (k + 1) = ρ.serialWorld spare k := by
    intro hnot
    rw [serialWorld_succ hm]
    exact World.step_answer_of_not_verifying ρ.authority verdict hnot
  rcases Authority.conclude_progress (ρ.world k).state context verdict with
    ⟨e, hjudge, hp⟩ | ⟨g, hjudge, hp⟩
  · -- The join has been refused in the serial run already.
    have hrefusal : context.refusal? (ρ.verdictFrom k n) = some e :=
      VerifyContext.refusal?_eq_some.mpr ⟨verdict, hverdict, hjudge⟩
    have houtcome : Flight.outcome? (ρ.verdictFrom k n) ⟨call, some (.verifying context)⟩ =
        some (.join (.error e.1)) := by
      simp only [Flight.outcome?, hrefusal, Option.map_some]
    obtain ⟨call', hserialFlight⟩ := (h.flight n).eq_answered hflight hjoin houtcome
    have hserialWorld := hstays (by simp [hserialFlight])
    rw [hp] at hworld
    refine h.of_put hm rfl hworld hserialWorld (State.shown_log ..) ?_
    rw [hserialFlight]
    exact .settled _ _ _ hjoin rfl
  · -- The join goes on to its commit, and happens there.
    have hrefusal : context.refusal? (ρ.verdictFrom k n) = none := by
      rw [Option.eq_none_iff_forall_ne_some]
      intro e he
      obtain ⟨verdict', hverdict', hjudge'⟩ := VerifyContext.refusal?_eq_some.mp he
      obtain rfl : verdict = verdict' := Option.some.inj (hverdict.symm.trans hverdict')
      rw [hjudge] at hjudge'
      exact absurd hjudge' (by simp)
    have houtcome :
        Flight.outcome? (ρ.verdictFrom k n) ⟨call, some (.verifying context)⟩ = none := by
      simp only [Flight.outcome?, hrefusal, Option.map_none]
    have hserialFlight := (h.flight n).eq_none hflight hjoin houtcome
    have hserialWorld := hstays (by simp [hserialFlight])
    rw [hp] at hworld
    refine h.of_put hm rfl hworld hserialWorld rfl ?_
    rw [hserialFlight]
    exact .unsettled _ hjoin rfl

/-- An answer of the verifier keeps the relation. -/
lemma Alike.answer (h : ρ.Alike spare k) {n : Nat} {verdict : Verdict}
    (hm : ρ.moves[k]? = some (.answer n verdict)) : ρ.Alike spare (k + 1) := by
  by_cases hverifies : ∃ call context,
      (ρ.world k).flight n = some ⟨call, some (.verifying context)⟩
  · obtain ⟨call, context, hstands⟩ := hverifies
    exact h.answer_verifying hm hstands
  · have hnot : ∀ call context, (ρ.world k).flight n ≠ some ⟨call, some (.verifying context)⟩ :=
      fun call context hflight => hverifies ⟨call, context, hflight⟩
    have hworld : ρ.world (k + 1) = ρ.world k := by
      rw [world_succ hm, World.step_answer_of_not_verifying _ verdict hnot]
    have hserialWorld : ρ.serialWorld spare (k + 1) = ρ.serialWorld spare k := by
      rw [serialWorld_succ hm]
      exact World.step_answer_of_not_verifying ρ.authority verdict ((h.flight n).not_verifying hnot)
    exact h.of_idle hm rfl hworld hserialWorld ((h.flight n).of_not_verifying hnot)

/-! ### Callers that go away -/

/-- A caller that goes away keeps the relation. -/
lemma Alike.abandon (h : ρ.Alike spare k) {n : Nat} (hm : ρ.moves[k]? = some (.abandon n)) :
    ρ.Alike spare (k + 1) := by
  have hverdict : ρ.verdictFrom k n = none := by
    rw [verdictFrom_eq hm, verdictIn, if_pos rfl]
  have hserialStep : ρ.serialWorld spare (k + 1) =
      (ρ.serialWorld spare k).step ρ.authority (.abandon n) := serialWorld_succ hm
  by_cases hsettled : (ρ.world k).flight n = none ∨
      ∃ call answer, (ρ.world k).flight n = some ⟨call, some (.answered answer)⟩
  · -- Whoever has not called or is answered has nothing to go away from, in either run.
    have hserialSettled : (ρ.serialWorld spare k).flight n = none ∨ ∃ call answer,
        (ρ.serialWorld spare k).flight n = some ⟨call, some (.answered answer)⟩ := by
      rcases hsettled with hnone | ⟨call, answer, hanswered⟩
      · exact .inl ((h.flight n).not_arrived hnone)
      · obtain ⟨call', hserialFlight⟩ := (h.flight n).answered hanswered
        exact .inr ⟨call', answer, hserialFlight⟩
    have hworld : ρ.world (k + 1) = ρ.world k := by
      rw [world_succ hm, World.step_abandon_of_settled _ hsettled]
    rw [World.step_abandon_of_settled _ hserialSettled] at hserialStep
    refine h.of_idle hm rfl hworld hserialStep ((h.flight n).of_not_verifying ?_)
    rcases hsettled with hnone | ⟨call, answer, hanswered⟩
    · simp [hnone]
    · simp [hanswered]
  · push Not at hsettled
    obtain ⟨hsome, hunanswered⟩ := hsettled
    obtain ⟨⟨call, progress⟩, hflight⟩ := Option.ne_none_iff_exists'.mp hsome
    have hnot : ∀ answer, progress ≠ some (.answered answer) := by
      rintro answer rfl
      exact hunanswered call answer hflight
    obtain ⟨hstate, hleft⟩ := World.step_abandon ρ.authority hflight hnot
    rw [← world_succ hm] at hstate hleft
    cases hjoin : call.isJoin with
    | true =>
      -- No answer of the verifier is to come, so the join has not happened in the serial run.
      have houtcome : Flight.outcome? (ρ.verdictFrom k n) ⟨call, progress⟩ = none := by
        rw [hverdict]
        match progress, hnot with
        | some (.answered answer), hnot => exact absurd rfl (hnot answer)
        | some (.waiting _), _ | some (.verifying _), _ | none, _ => rfl
      have hserialFlight := (h.flight n).eq_none hflight hjoin houtcome
      rw [World.step_abandon_of_settled _ (.inl hserialFlight)] at hserialStep
      refine h.of_number hm rfl ?_ ?_
      · rw [hstate, hserialStep]
        exact h.shown
      · rw [hleft, hserialStep, hserialFlight]
        exact .unsettled _ hjoin rfl
    | false =>
      have hserialFlight := ((h.flight n).eq_of_not_isJoin hflight hjoin).trans hflight
      obtain ⟨hserialState, hserialLeft⟩ :=
        World.step_abandon ρ.authority hserialFlight hnot
      refine h.of_number hm rfl ?_ ?_
      · rw [hstate, hserialStep, hserialState]
        exact h.shown
      · rw [hleft, hserialStep, hserialLeft]
        exact .same _ hjoin

/-! ### Any move -/

/-- **The relation outlives every move.** -/
theorem Alike.succ (h : ρ.Alike spare k) (hdistinct : ρ.TokensDistinct) :
    ρ.Alike spare (k + 1) := by
  cases hm : ρ.moves[k]? with
  | none =>
    have hserialWorld : ρ.serialWorld spare (k + 1) = ρ.serialWorld spare k := by
      simp only [serialWorld, serial, hm, World.serialStep]
    have hlength : ρ.moves.length ≤ k := List.getElem?_eq_none_iff.mp hm
    have hverdict : ∀ n, ρ.verdictFrom (k + 1) n = ρ.verdictFrom k n := fun n => by
      rw [verdictFrom, verdictFrom, List.drop_of_length_le hlength,
        List.drop_of_length_le (Nat.le_succ_of_le hlength)]
    refine ⟨?_, fun n => ?_⟩
    · rw [hserialWorld, world_succ_of_none hm]
      exact h.shown
    · rw [hserialWorld, world_succ_of_none hm, hverdict n]
      exact h.flight n
  | some m =>
    cases m with
    | arrive n call =>
      cases hflight : (ρ.world k).flight n with
      | some f => exact h.arrive_taken hm hflight
      | none =>
        cases hjoin : call.isJoin with
        | false => exact h.arrive_other hm hflight hjoin
        | true =>
          cases call with
          | join q requester => exact h.arrive_join hm hflight
          | _ => exact absurd hjoin (by simp [Call.isJoin])
    | enter n registryFree => exact h.enter hdistinct hm
    | answer n verdict => exact h.answer hm
    | abandon n => exact h.abandon hm
    | wait | sweep | receive | relist =>
      refine h.of_move hm ?_ (fun n hn => absurd hn (by simp [Move.number?]))
      rw [world_succ hm, serialWorld_succ hm]
      exact World.shown_step_of_background _ rfl h.shown

/-- The two runs are alike at any time. -/
lemma alike (ρ : Run η) (spare : Verdict) (hdistinct : ρ.TokensDistinct) (k : Nat) :
    ρ.Alike spare k := by
  induction k with
  | zero => exact ρ.alike_zero spare
  | succ k ih => exact ih.succ hdistinct

end Run

end Admittance
