import Admittance.Conference
import Admittance.Sweeper
import Admittance.Proofs.Binding
import Mathlib.Logic.Function.Basic

/-!
# Runs in which calls interfere

While one call waits for the registry or for its verifier, anything may happen: other calls arrive,
get the registry and are answered, a sweeper or the hook gets the registry, a caller goes away, the
clock moves.  A `World` is an authority's state together with all calls that ever arrived, each
under a number of its own, and a `Move` is one such happening.  What a move does is said by the
functions that an authority runs anyway (`Authority.arrive`, `Authority.enter`,
`Authority.conclude`, `Sweeper.sweep`, `Hook.receive`); the moves only leave open who is next.  A
move that makes no sense in a world changes nothing.

The verifier's answers are moves too, so a run may have any verifier, also one that changes its
mind.  A sweeper or a hook enters a move as it stands when it gets hold of the registry or of its
channel, so that nothing is assumed of its schedule.

A `Run` is a list of moves from a state without calls; `Run.world` gives the world after its first
`k` moves.
-/

namespace Admittance

variable {η : Type}

/-! ## Worlds -/

/-- A call that has arrived. -/
structure Flight where
  call : Call
  /-- How far the call has come; nothing once its caller has gone away. -/
  progress : Option Progress

/-- The answer of a call that has been answered. -/
def Flight.answer? (f : Flight) : Option Answer :=
  match f.progress with
  | some (.answered answer) => some answer
  | _ => none

/-- An authority's state and the calls that have arrived, by their numbers. -/
structure World (η : Type) where
  state : State η
  flight : Nat → Option Flight

/-- What may happen next. -/
inductive Move
  /-- A call arrives under a number that no call had before. -/
  | arrive (number : Nat) (call : Call)
  /-- A call that waits for the registry gets it; the flag says whether nobody waits behind it. -/
  | enter (number : Nat) (registryFree : Bool)
  /-- The verifier answers a join. -/
  | answer (number : Nat) (verdict : Verdict)
  /-- Whoever made a call goes away while it waits. -/
  | abandon (number : Nat)
  /-- The clock moves forward. -/
  | wait (nanos : Nat)
  /-- A sweeper that waits for the registry gets it. -/
  | sweep (sweeper : Sweeper)
  /-- A hook receives once. -/
  | receive (hook : Hook) (channel : Channel)
  /-- The host registers or removes a listener. -/
  | relist (change : ListenerChange)

namespace World

/-- The world in which no call has arrived yet. -/
def quiet (s : State η) : World η := ⟨s, fun _ => none⟩

/-- The world after a call has come as far as `reached` says. -/
def put (w : World η) (number : Nat) (call : Call) (reached : State η × Progress) : World η :=
  ⟨reached.1, Function.update w.flight number (some ⟨call, some reached.2⟩)⟩

/-- The answer of the call of a number, once it has been answered. -/
def answer? (w : World η) (number : Nat) : Option Answer :=
  (w.flight number).bind Flight.answer?

end World

/-- A join that needs its verifier asks it at once. -/
def Authority.consulting (registryFree : Bool) : State η × Progress → State η × Progress
  | (s, .verifying context) => (Authority.consult s context registryFree, .verifying context)
  | reached => reached

/-- What a call does from the moment at which it gets the registry up to its next wait. -/
def Authority.enterAndConsult (a : Authority η) (s : State η) (pending : Section)
    (registryFree : Bool) : State η × Progress :=
  consulting registryFree (a.enter s pending)

namespace World

/-- The world after a move. -/
def step (a : Authority η) (w : World η) : Move → World η
  | .arrive n call =>
    match w.flight n with
    | none => w.put n call (a.arrive w.state call)
    | some _ => w
  | .enter n registryFree =>
    match w.flight n with
    | some ⟨call, some (.waiting pending)⟩ =>
      w.put n call (a.enterAndConsult w.state pending registryFree)
    | _ => w
  | .answer n verdict =>
    match w.flight n with
    | some ⟨call, some (.verifying context)⟩ =>
      w.put n call (Authority.conclude w.state context verdict)
    | _ => w
  | .abandon n =>
    match w.flight n with
    | none | some ⟨_, some (.answered _)⟩ => w
    | some ⟨call, _⟩ => { w with flight := Function.update w.flight n (some ⟨call, none⟩) }
  | .wait nanos => { w with state := { w.state with now := w.state.now + nanos } }
  | .sweep sweeper => { w with state := (sweeper.sweep w.state).2 }
  | .receive hook channel =>
    { w with state := (hook.receive a.config.destroyOnConferenceEnd channel w.state).2 }
  | .relist change =>
    { w with state := { w.state with listeners := (w.state.listeners.change change).1 } }

/-- How the call of a number comes further by a move. -/
inductive Advance (a : Authority η) (w : World η) (n : Nat) : Move → Flight → Prop
  | arrived (call : Call) (before : w.flight n = none) :
      Advance a w n (.arrive n call) ⟨call, some (a.arrive w.state call).2⟩
  | entered (registryFree : Bool) (call : Call) (pending : Section)
      (before : w.flight n = some ⟨call, some (.waiting pending)⟩) :
      Advance a w n (.enter n registryFree)
        ⟨call, some (a.enterAndConsult w.state pending registryFree).2⟩
  | answered (verdict : Verdict) (call : Call) (context : VerifyContext)
      (before : w.flight n = some ⟨call, some (.verifying context)⟩) :
      Advance a w n (.answer n verdict)
        ⟨call, some (Authority.conclude w.state context verdict).2⟩
  | abandoned (call : Call) (progress : Option Progress)
      (before : w.flight n = some ⟨call, progress⟩) : Advance a w n (.abandon n) ⟨call, none⟩

@[simp] lemma flight_quiet (s : State η) (n : Nat) : (quiet s).flight n = none := rfl

/-- What is put down for a call concerns no other call. -/
lemma flight_put (w : World η) (n : Nat) (call : Call) (reached : State η × Progress) (i : Nat) :
    (w.put n call reached).flight i =
      if i = n then some ⟨call, some reached.2⟩ else w.flight i := by
  simp [put, Function.update_apply]

/-- A move lets the call of a number come further, or leaves it where it is. -/
lemma flight_step (a : Authority η) (w : World η) (m : Move) (i : Nat) :
    (w.step a m).flight i = w.flight i ∨
      ∃ f, (w.step a m).flight i = some f ∧ Advance a w i m f := by
  -- A move is about the call of one number; all others stay where they are.
  cases m with
  | arrive n call =>
    cases hflight : w.flight n with
    | some f => exact .inl (by simp [step, hflight])
    | none =>
      by_cases hi : i = n
      · subst hi
        exact .inr ⟨_, by simp [step, hflight, flight_put], .arrived call hflight⟩
      · exact .inl (by simp [step, hflight, flight_put, hi])
  | enter n registryFree =>
    unfold step
    dsimp only
    split
    · rename_i call pending hflight
      by_cases hi : i = n
      · subst hi
        exact .inr ⟨_, by simp [flight_put], .entered registryFree call pending hflight⟩
      · exact .inl (by simp [flight_put, hi])
    · exact .inl rfl
  | answer n verdict =>
    unfold step
    dsimp only
    split
    · rename_i call context hflight
      by_cases hi : i = n
      · subst hi
        exact .inr ⟨_, by simp [flight_put], .answered verdict call context hflight⟩
      · exact .inl (by simp [flight_put, hi])
    · exact .inl rfl
  | abandon n =>
    unfold step
    dsimp only
    split
    · exact .inl rfl
    · exact .inl rfl
    · rename_i call progress _ hflight
      by_cases hi : i = n
      · subst hi
        exact .inr ⟨_, by simp, .abandoned call progress hflight⟩
      · exact .inl (by simp [hi])
  | wait | sweep | receive | relist => exact .inl rfl

/-- A call has an answer when it is answered. -/
lemma answer?_eq_some {w : World η} {n : Nat} {answer : Answer} :
    w.answer? n = some answer ↔ ∃ call, w.flight n = some ⟨call, some (.answered answer)⟩ := by
  rw [answer?, Option.bind_eq_some_iff]
  constructor
  · rintro ⟨⟨call, progress⟩, hflight, hanswer⟩
    unfold Flight.answer? at hanswer
    split at hanswer
    · rename_i answer' hprogress
      obtain rfl : answer' = answer := Option.some.inj hanswer
      exact ⟨call, hprogress ▸ hflight⟩
    · exact absurd hanswer (by simp)
  · rintro ⟨call, hflight⟩
    exact ⟨_, hflight, rfl⟩

end World

/-! ## Runs -/

/-- An authority for runs that show something: its tokens are numbers, and its verifier knows nobody
unless a move says otherwise. -/
def Authority.sample (policy : SessionPolicy) : Authority Unit where
  config := { Config.standard with destroyOnConferenceEnd := true }
  verifier := ⟨policy, fun _ => .error (.rejected "unknown"), fun _ => none⟩
  draw n := .ofFirst (.ofNumber n)
  react _ _ := ⟨(), [], none⟩

/-- The lifetime of sessions in runs that show something. -/
def Duration.sampleLifetime : Duration := .ofMillis 20

/-- An authority, a state to start from, and what happens then. -/
structure Run (η : Type) where
  authority : Authority η
  start : State η
  moves : List Move

namespace Run

/-- The world after the first `k` moves. -/
def world (ρ : Run η) (k : Nat) : World η :=
  (ρ.moves.take k).foldl (World.step ρ.authority) (World.quiet ρ.start)

/-- The world after all moves. -/
def last (ρ : Run η) : World η := ρ.world ρ.moves.length

/-- The registry after the first `k` moves. -/
def registry (ρ : Run η) (k : Nat) : Registry := (ρ.world k).state.registry

/-- Move `k` has this answer given to the call of a number. -/
def Answers (ρ : Run η) (k n : Nat) (answer : Answer) : Prop :=
  (ρ.world k).answer? n = none ∧ (ρ.world (k + 1)).answer? n = some answer

/-- The call of a number after the first `k` moves, and how far it has come. -/
def Stands (ρ : Run η) (k n : Nat) (call : Call) (progress : Progress) : Prop :=
  (ρ.world k).flight n = some ⟨call, some progress⟩

@[simp] lemma world_zero (ρ : Run η) : ρ.world 0 = World.quiet ρ.start := rfl

/-- A move leads to the next world. -/
lemma world_succ {ρ : Run η} {k : Nat} {m : Move} (h : ρ.moves[k]? = some m) :
    ρ.world (k + 1) = (ρ.world k).step ρ.authority m := by
  simp [world, List.take_add_one, h]

/-- Nothing happens after the last move. -/
lemma world_succ_of_none {ρ : Run η} {k : Nat} (h : ρ.moves[k]? = none) :
    ρ.world (k + 1) = ρ.world k := by
  simp [world, List.take_add_one, h]

end Run

end Admittance
