import Admittance.Proofs.Outcome

/-!
# Registries that only an authority changes

A registry may be handed to whoever wants to change it directly.  If nobody does, then the only way
to open a session is a join: one that was verified, whose machine and identity have names, and have
no session yet (`Run.Guarded.opens`).
-/

namespace Admittance

variable {η : Type}

/-- The call changes a registry directly. -/
def Call.isDirect : Call → Bool
  | .create .. | .attach .. | .destroy .. | .purge .. | .sweep .. | .setSink .. => true
  | _ => false

/-- The move lets a call arrive that changes the registry directly. -/
def Move.isDirect : Move → Bool
  | .arrive _ call => call.isDirect
  | _ => false

/-- The move lets a call arrive that replaces the sink. -/
def Move.isSinkChange : Move → Bool
  | .arrive _ (.setSink _) => true
  | _ => false

namespace Run

variable {ρ : Run η}

/-- There are no sessions at the start, and the registry is changed through the authority only. -/
structure Guarded (ρ : Run η) : Prop where
  empty : ρ.start.registry.sessions = []
  moves : ∀ m ∈ ρ.moves, m.isDirect = false

/-- Every call has arrived. -/
lemma exists_arrival (ρ : Run η) (k : Nat) {n : Nat} {f : Flight}
    (hf : (ρ.world k).flight n = some f) : Move.arrive n f.call ∈ ρ.moves := by
  induction k generalizing f with
  | zero => simp at hf
  | succ k ih =>
    cases hm : ρ.moves[k]? with
    | none => exact ih (world_succ_of_none hm ▸ hf)
    | some m =>
      rw [world_succ hm] at hf
      rcases World.flight_step ρ.authority (ρ.world k) m n with hsame | ⟨f', hf', hadvance⟩
      · exact ih (hsame ▸ hf)
      · obtain rfl : f' = f := Option.some.inj (hf'.symm.trans hf)
        cases hadvance with
        | arrived call _ => exact List.mem_of_getElem? hm
        | entered _ call pending before =>
          have harrived := ih before
          exact harrived
        | answered _ call context before =>
          have harrived := ih before
          exact harrived
        | abandoned call progress before =>
          have harrived := ih before
          exact harrived

/-- A sink that nobody replaces stays. -/
lemma sink_eq (h : ∀ m ∈ ρ.moves, m.isSinkChange = false) (k : Nat) :
    (ρ.registry k).sink = ρ.start.registry.sink := by
  induction k with
  | zero => rfl
  | succ k ih =>
    rcases (ρ.effect k).sink with hsame | ⟨sink, hentered⟩
    · exact hsame.trans ih
    · obtain ⟨n, registryFree, call, -, hstands⟩ := entered?_eq_some hentered
      obtain ⟨rfl, -⟩ := ρ.explained k hstands
      exact absurd (h _ (ρ.exists_arrival k hstands)) (by simp [Move.isSinkChange])

/-- No call that has arrived changes the registry directly. -/
lemma Guarded.not_isDirect (h : ρ.Guarded) {k n : Nat} {f : Flight}
    (hf : (ρ.world k).flight n = some f) : f.call.isDirect = false :=
  h.moves _ (ρ.exists_arrival k hf)

/-- No move enters a section of a direct call. -/
lemma Guarded.not_isDirect_of_entered (h : ρ.Guarded) {k : Nat} {call : Call}
    (hentered : ρ.entered? k = some (.whole call)) : call.isDirect = false := by
  obtain ⟨n, registryFree, call', -, hstands⟩ := entered?_eq_some hentered
  obtain ⟨hcall, -⟩ := ρ.explained k hstands
  exact hcall ▸ h.not_isDirect hstands

/-- The sink stays. -/
lemma Guarded.sink_eq (h : ρ.Guarded) (k : Nat) :
    (ρ.registry k).sink = ρ.start.registry.sink := by
  refine Run.sink_eq (fun m hm => ?_) k
  have hdirect := h.moves m hm
  unfold Move.isSinkChange
  split
  · exact absurd hdirect (by simp [Move.isDirect, Call.isDirect])
  · rfl

/-- **Only a verified join opens a session**, and only for a machine and an identity that have
names and have no session yet. -/
theorem Guarded.opens (h : ρ.Guarded) {k : Nat} {b : Binding} (hopens : ρ.Opens k b) :
    ∃ n q requester v i presented, ρ.Commits k n q requester (.verified v) ∧
      ρ.Granted i k n q requester presented (.verified v) ∧
      b.machineId = q.machineId ∧ b.identity = v.identity ∧
      b.machineId.isEmpty = false ∧ b.identity.isEmpty = false ∧
      ∀ b' ∈ (ρ.registry k).bindings,
        ¬ (b'.machineId = b.machineId ∧ b'.identity = b.identity) := by
  obtain ⟨pending, hentered, hpermitted⟩ := hopens
  obtain ⟨n, registryFree, call, hmove, hstands⟩ := entered?_eq_some hentered
  match pending, hpermitted with
  | .whole _, ⟨properties, rfl⟩ =>
    exact absurd (h.not_isDirect_of_entered hentered) (by simp [Call.isDirect])
  | .commit q requester _, ⟨v, rfl, hnone, hm, hi⟩ =>
    have hcall : call = .join q requester := (ρ.explained k hstands).1
    have hcommits : ρ.Commits k n q requester (.verified v) :=
      ⟨⟨registryFree, hmove⟩, hcall ▸ hstands⟩
    obtain ⟨i, presented, hgranted⟩ := hcommits.granted
    have hmachine : q.machineId.isEmpty = false := hgranted.prechecked.named
    have hidentity : v.identity.isEmpty = false := hgranted.verified.2.1
    refine ⟨n, q, requester, v, i, presented, hcommits, hgranted, hm, hi, ?_, ?_, ?_⟩
    · rw [hm]; exact hmachine
    · rw [hi]; exact hidentity
    · intro b' hb'
      rw [hm, hi]
      exact Registry.ne_of_findByIdentity?_eq_none hmachine hidentity hnone hb'

end Run

end Admittance
