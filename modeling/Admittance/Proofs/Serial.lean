import Admittance.Proofs.Atomic

/-!
# Joins might as well be atomic

Of any run there is a *serial* run, in which every join happens at one moment: at its commit if it
gets there, and else at the moment at which it first looks at the registry.  All other moves stay
where they are.  Both runs show the same after every move, and in the end all calls have the same
answers (`Run.serializable`).  The verifier's answer is the one that it gives in the run.  Only a
join that was verified again although its token was gone by the time of its commit is another one
in the serial run: there its request has no token.

The serial run can know what is still to come, for it is made from the whole run: a join that the
verifier is going to refuse is refused at its pre-check.
-/

namespace Admittance

variable {η : Type}

/-! ## The serial run -/

/-- A step of a serial run. -/
inductive Serial
  | idle
  /-- A move that is no part of a join. -/
  | move (m : Move)
  /-- The call of a number is a join that runs undisturbed, and its verifier gives this answer if it
  is asked. -/
  | join (number : Nat) (request : JoinRequest) (requester : PeerAddress) (verdict : Verdict)

/-- The world after a serial step. -/
def World.serialStep (a : Authority η) (w : World η) : Serial → World η
  | .idle => w
  | .move m => w.step a m
  | .join n q requester verdict =>
    w.put n (.join q requester) ((a.answering verdict).perform w.state (.join q requester))

/-- What the verifier is going to answer the call of a number, unless the caller goes away before.
-/
def verdictIn (n : Nat) : List Move → Option Verdict
  | [] => none
  | .answer i verdict :: rest => if i = n then some verdict else verdictIn n rest
  | .abandon i :: rest => if i = n then none else verdictIn n rest
  | _ :: rest => verdictIn n rest

/-- How the verifier is going to refuse a join, if it does so. -/
def VerifyContext.refusal? (context : VerifyContext) (verdict? : Option Verdict) :
    Option (AuthError × Log.Record) :=
  match verdict? with
  | none => none
  | some verdict =>
    match Join.judge context.peer context.request.machineId context.session verdict with
    | .error refusal => some refusal
    | .ok _ => none

/-- A join is going to be refused if the verifier's answer is known and not enough. -/
lemma VerifyContext.refusal?_eq_some {context : VerifyContext} {verdict? : Option Verdict}
    {e : AuthError × Log.Record} :
    context.refusal? verdict? = some e ↔ ∃ verdict, verdict? = some verdict ∧
      Join.judge context.peer context.request.machineId context.session verdict = .error e := by
  unfold refusal?
  cases verdict? with
  | none => simp
  | some verdict =>
    simp only [Option.some.injEq, exists_eq_left']
    cases Join.judge context.peer context.request.machineId context.session verdict <;> simp

namespace Run

/-- What the verifier is going to answer the call of a number after the first `k` moves. -/
def verdictFrom (ρ : Run η) (k n : Nat) : Option Verdict := verdictIn n (ρ.moves.drop k)

/-- The serial step for a pre-check: a join that will not get to its commit happens here. -/
def serialPrecheck (ρ : Run η) (spare : Verdict) (k n : Nat) (q : JoinRequest)
    (requester : PeerAddress) : Serial :=
  match (ρ.authority.enterPrecheck (ρ.world k).state q requester).2 with
  | .answered _ => .join n q requester spare
  | .waiting _ => .idle
  | .verifying context =>
    match context.refusal? (ρ.verdictFrom (k + 1) n) with
    | some _ => .join n q requester ((ρ.verdictFrom (k + 1) n).getD spare)
    | none => .idle

/-- The serial step for a call that arrives. -/
def serialArrival (n : Nat) (spare : Verdict) : Call → Serial
  | .join q requester => if q.machineId.isEmpty then .join n q requester spare else .idle
  | call => .move (.arrive n call)

/-- The serial step for a move.  A join that does not ask its verifier is given a spare answer. -/
def serialOf (ρ : Run η) (spare : Verdict) (k : Nat) : Move → Serial
  | .arrive n call =>
    match (ρ.world k).flight n with
    | none => serialArrival n spare call
    | some _ => .idle
  | .enter n registryFree =>
    match (ρ.world k).flight n with
    | some ⟨_, some (.waiting (.precheck q requester))⟩ => ρ.serialPrecheck spare k n q requester
    | some ⟨_, some (.waiting (.commit q requester g))⟩ =>
      .join n (g.request (ρ.registry k) q) requester (g.verdict spare)
    | _ => .move (.enter n registryFree)
  | m => .move m

/-- The serial step for move `k`. -/
def serial (ρ : Run η) (spare : Verdict) (k : Nat) : Serial :=
  match ρ.moves[k]? with
  | none => .idle
  | some m => ρ.serialOf spare k m

/-- The world of the serial run after the first `k` moves. -/
def serialWorld (ρ : Run η) (spare : Verdict) : Nat → World η
  | 0 => .quiet ρ.start
  | k + 1 => (ρ.serialWorld spare k).serialStep ρ.authority (ρ.serial spare k)

end Run

end Admittance
