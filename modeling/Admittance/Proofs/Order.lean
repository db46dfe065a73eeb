import Admittance.Proofs.Interleaving

/-!
# Searching in any order

Whoever searches a registry comes across its sessions in some order, and nobody promises which: it
may be another one each time.  A `SearchOrder` says for every moment in which order the sessions
come up then.  `Run.worldIn` is the world that a move of a run finds if the registry has been
searched in this order at every move so far, and is searched in this order now.  `Run.world` is the
world in which the sessions always come up in the order of their creation
(`Run.worldIn_byCreation`).
-/

namespace Admittance

variable {η : Type}

/-- For every moment an order in which sessions come up. -/
structure SearchOrder where
  arrange : Nat → List Session → List Session
  perm : ∀ k sessions, (arrange k sessions).Perm sessions

namespace SearchOrder

/-- Older sessions always come up first. -/
def byCreation : SearchOrder := ⟨fun _ sessions => sessions, fun _ sessions => .refl sessions⟩

/-- The order of the sessions is turned round before every move. -/
def alternating : SearchOrder :=
  ⟨fun _ sessions => sessions.reverse, fun _ sessions => sessions.reverse_perm⟩

end SearchOrder

/-- The registry as it is searched at move `k`. -/
def Registry.arranged (r : Registry) (o : SearchOrder) (k : Nat) : Registry where
  sessions := o.arrange k r.sessions
  sink := r.sink
  tokens_nodup := ((o.perm k r.sessions).map Session.token).nodup_iff.mpr r.tokens_nodup

/-- Another order has the same sessions. -/
@[simp] lemma Registry.mem_arranged {r : Registry} {o : SearchOrder} {k : Nat} {x : Session} :
    x ∈ (r.arranged o k).sessions ↔ x ∈ r.sessions :=
  (o.perm k r.sessions).mem_iff

/-- In another order the same tokens are live. -/
@[simp] lemma Registry.isLive_arranged {r : Registry} {o : SearchOrder} {k : Nat}
    {t : SessionToken} : (r.arranged o k).IsLive t ↔ r.IsLive t := by
  rw [IsLive, IsLive, tokens_eq_map, tokens_eq_map]
  exact ((o.perm k r.sessions).map Session.token).mem_iff

/-- The world in which the registry is searched as at move `k`. -/
def World.arranged (w : World η) (o : SearchOrder) (k : Nat) : World η :=
  { w with state := { w.state with registry := w.state.registry.arranged o k } }

namespace Run

/-- The world that move `k` finds if the registry is searched in this order. -/
def worldIn (ρ : Run η) (o : SearchOrder) : Nat → World η
  | 0 => (World.quiet ρ.start).arranged o 0
  | k + 1 =>
    let next := match ρ.moves[k]? with
      | some m => (ρ.worldIn o k).step ρ.authority m
      | none => ρ.worldIn o k
    next.arranged o (k + 1)

/-- The registry as move `k` searches it. -/
def registryIn (ρ : Run η) (o : SearchOrder) (k : Nat) : Registry := (ρ.worldIn o k).state.registry

/-- A move leads to the next world, and there the sessions come up in the next order. -/
lemma worldIn_succ {ρ : Run η} {o : SearchOrder} {k : Nat} {m : Move} (h : ρ.moves[k]? = some m) :
    ρ.worldIn o (k + 1) = ((ρ.worldIn o k).step ρ.authority m).arranged o (k + 1) := by
  rw [worldIn, h]

/-- Behind the last move only the order changes. -/
lemma worldIn_succ_of_none {ρ : Run η} {o : SearchOrder} {k : Nat} (h : ρ.moves[k]? = none) :
    ρ.worldIn o (k + 1) = (ρ.worldIn o k).arranged o (k + 1) := by
  rw [worldIn, h]

/-- Sessions that come up in the order of their creation make no difference. -/
theorem worldIn_byCreation (ρ : Run η) (k : Nat) : ρ.worldIn .byCreation k = ρ.world k := by
  induction k with
  | zero => rfl
  | succ k ih =>
    cases hm : ρ.moves[k]? with
    | none =>
      rw [worldIn_succ_of_none hm, world_succ_of_none hm, ih]
      rfl
    | some m =>
      rw [worldIn_succ hm, world_succ hm, ih]
      rfl

end Run

end Admittance
