import Admittance.Proofs.Order

/-!
# Every search in an order of its own

Whoever holds the registry may search it more than once: a commit that opens a session first looks
for one by machine and identity, and then goes through all sessions for those that use its
connection.  Nobody promises that the sessions come up in one order both times.  `World.stepIn` is a
move in which the second search comes across them in another order, and `Run.worldVia` the world
that a move finds if this is so of every move, and of the first search of every move too.  No move
searches the registry three times.

Sessions that always come up in the order of their creation make a move what it is anyway
(`Run.worldVia_byCreation`).
-/

namespace Admittance

variable {η : Type}

/-- The attachment for which the sessions come up as at moment `i`. -/
def Join.attachIn (o : SearchOrder) (i : Nat) (now : Instant) (requester : PeerAddress) :
    Join.Attachment :=
  fun r token => (r.arranged o i).attach now token requester

namespace Authority

/-- The commit of a join whose second search is in the order of moment `i`, and the notification
that follows it. -/
def enterCommitIn (o : SearchOrder) (i : Nat) (a : Authority η) (s : State η)
    (request : JoinRequest) (requester : PeerAddress) (grant : Join.Grant) : State η × Progress :=
  a.enterCommitBy (Join.attachIn o i s.now requester) s request requester grant

/-- What a section does whose second search, if it has one, is in the order of moment `i`. -/
def enterIn (o : SearchOrder) (i : Nat) (a : Authority η) (s : State η) :
    Section → State η × Progress
  | .commit request requester grant => a.enterCommitIn o i s request requester grant
  | pending => a.enter s pending

/-- What such a section does with the question to the verifier that may follow. -/
def enterAndConsultIn (o : SearchOrder) (i : Nat) (a : Authority η) (s : State η)
    (pending : Section) (registryFree : Bool) : State η × Progress :=
  consulting registryFree (a.enterIn o i s pending)

/-- In the order of creation a section does what it does anyway. -/
lemma enterIn_byCreation (i : Nat) (a : Authority η) (s : State η) (pending : Section) :
    a.enterIn .byCreation i s pending = a.enter s pending := by
  cases pending <;> rfl

end Authority

/-- The world after a move whose second search, if it has one, is in the order of moment `i`. -/
def World.stepIn (o : SearchOrder) (i : Nat) (a : Authority η) (w : World η) : Move → World η
  | .enter n registryFree =>
    match w.flight n with
    | some ⟨call, some (.waiting pending)⟩ =>
      w.put n call (a.enterAndConsultIn o i w.state pending registryFree)
    | _ => w
  | m => w.step a m

/-- In the order of creation a move does what it does anyway. -/
lemma World.stepIn_byCreation (i : Nat) (a : Authority η) (w : World η) (m : Move) :
    w.stepIn .byCreation i a m = w.step a m := by
  cases m with
  | enter n registryFree =>
    simp only [stepIn, step, Authority.enterAndConsultIn, Authority.enterIn_byCreation]
    rfl
  | arrive | answer | abandon | wait | sweep | receive | relist => rfl

namespace Run

/-- The world that move `k` finds if every search of the registry is in an order of its own: the
first search of move `k` is in that of moment `2 * k`, and the second one in that of the next
moment. -/
def worldVia (ρ : Run η) (o : SearchOrder) : Nat → World η
  | 0 => (World.quiet ρ.start).arranged o 0
  | k + 1 =>
    let next := match ρ.moves[k]? with
      | some m => (ρ.worldVia o k).stepIn o (2 * k + 1) ρ.authority m
      | none => ρ.worldVia o k
    next.arranged o (2 * (k + 1))

/-- The registry that move `k` finds. -/
def registryVia (ρ : Run η) (o : SearchOrder) (k : Nat) : Registry :=
  (ρ.worldVia o k).state.registry

/-- A move leads to the next world, and there the sessions come up in the next order. -/
lemma worldVia_succ {ρ : Run η} {o : SearchOrder} {k : Nat} {m : Move}
    (h : ρ.moves[k]? = some m) : ρ.worldVia o (k + 1) =
      ((ρ.worldVia o k).stepIn o (2 * k + 1) ρ.authority m).arranged o (2 * (k + 1)) := by
  rw [worldVia, h]

/-- Behind the last move only the order changes. -/
lemma worldVia_succ_of_none {ρ : Run η} {o : SearchOrder} {k : Nat} (h : ρ.moves[k]? = none) :
    ρ.worldVia o (k + 1) = (ρ.worldVia o k).arranged o (2 * (k + 1)) := by
  rw [worldVia, h]

/-- Sessions that come up in the order of their creation make no difference. -/
theorem worldVia_byCreation (ρ : Run η) (k : Nat) : ρ.worldVia .byCreation k = ρ.world k := by
  induction k with
  | zero => rfl
  | succ k ih =>
    cases hm : ρ.moves[k]? with
    | none =>
      rw [worldVia_succ_of_none hm, world_succ_of_none hm, ih]
      rfl
    | some m =>
      rw [worldVia_succ hm, world_succ hm, ih, World.stepIn_byCreation]
      rfl

end Run

end Admittance
