import Admittance.Proofs.Effect
import Mathlib.Data.List.Infix

/-!
# Tokens are handed out once

A token is drawn until it is not in use, so that a session keeps its token to itself for as long
as it lives, and a token its binding (`Run.mem_bindings_of_live`).  That a token is never issued
again when its session is gone is another matter, and so but for a collision of random numbers: it
is what `Run.TokensDistinct` says.  Then a token has one binding in the whole run
(`Run.TokensDistinct.binding_eq`), and once it is gone it is gone for good
(`Run.TokensDistinct.not_isLive_of_gone`).
-/

namespace Admittance

variable {η : Type}

/-- The next token is not in use. -/
lemma Authority.not_isLive_nextToken (a : Authority η) (s : State η) :
    ¬ s.registry.IsLive (a.nextToken s) :=
  s.registry.not_isLive_freshToken _

namespace Run

variable {ρ : Run η}

/-- The number of tokens drawn before the move of number `k`. -/
def drawn (ρ : Run η) (k : Nat) : Nat := (ρ.world k).state.drawn

/-- The token of the session that move `k` opens, if it opens one. -/
def nextToken (ρ : Run η) (k : Nat) : SessionToken := ρ.authority.nextToken (ρ.world k).state

/-- The tokens that were live at the start or have been drawn in the first `k` moves. -/
def issued (ρ : Run η) : Nat → List SessionToken
  | 0 => ρ.start.registry.tokens
  | k + 1 => if ρ.drawn (k + 1) = ρ.drawn k then ρ.issued k else ρ.issued k ++ [ρ.nextToken k]

/-- No token is issued twice. -/
def TokensDistinct (ρ : Run η) : Prop := (ρ.issued ρ.moves.length).Nodup

instance (ρ : Run η) : Decidable ρ.TokensDistinct :=
  inferInstanceAs (Decidable (ρ.issued ρ.moves.length).Nodup)

/-- A token is removed in some move from `i` on and before `k`. -/
def Removes (ρ : Run η) (i k : Nat) (t : SessionToken) : Prop :=
  ∃ j, i ≤ j ∧ j < k ∧ (ρ.registry j).IsLive t ∧ ¬ (ρ.registry (j + 1)).IsLive t

/-! ## One move -/

/-- The section that move `k` enters, if it enters one. -/
def entered? (ρ : Run η) (k : Nat) : Option Section := do
  Move.entered? (ρ.world k) (← ρ.moves[k]?)

/-- Move `k` may open a session of this binding. -/
def Opens (ρ : Run η) (k : Nat) (b : Binding) : Prop :=
  ∃ pending, ρ.entered? k = some pending ∧ pending.Opens (ρ.registry k) b

/-- Every move has an effect of one of the two shapes. -/
lemma effect (ρ : Run η) (k : Nat) :
    Effect ρ.authority (ρ.entered? k) (ρ.world k).state (ρ.world (k + 1)).state := by
  cases hm : ρ.moves[k]? with
  | none =>
    rw [world_succ_of_none hm]
    exact .ofSilent (.refl _)
  | some m =>
    rw [world_succ hm]
    simpa [entered?, hm] using World.step_effect ρ.authority (ρ.world k) m

/-- What a section needs to be entered. -/
lemma entered?_eq_some {k : Nat} {pending : Section} (h : ρ.entered? k = some pending) :
    ∃ n registryFree call, ρ.moves[k]? = some (.enter n registryFree) ∧
      ρ.Stands k n call (.waiting pending) := by
  cases hm : ρ.moves[k]? with
  | none => simp [entered?, hm] at h
  | some m =>
    simp only [entered?, hm, Option.bind_eq_bind, Option.bind_some] at h
    unfold Move.entered? at h
    split at h
    · rename_i n registryFree
      split at h
      · rename_i call pending' hflight
        exact ⟨n, registryFree, call, rfl, Option.some.inj h ▸ hflight⟩
      · simp at h
    · simp at h

/-- A binding is new exactly if its session has just been opened under the next token. -/
lemma mem_bindings_succ {k : Nat} {b : Binding} (hb : b ∈ (ρ.registry (k + 1)).bindings) :
    b ∈ (ρ.registry k).bindings ∨
      ρ.Opens k b ∧ b.token = ρ.nextToken k ∧
        (ρ.registry (k + 1)).bindings = (ρ.registry k).bindings ++ [b] ∧
        ρ.drawn (k + 1) = ρ.drawn k + 1 := by
  cases (ρ.effect k).shift with
  | shrunk bindings _ _ => exact .inl (bindings.subset hb)
  | opened b' permitted _ bindings token _ drawn _ =>
    rw [registry, bindings, List.mem_append, List.mem_singleton] at hb
    rcases hb with hb | rfl
    · exact .inl hb
    · exact .inr ⟨permitted, token, bindings, drawn⟩

/-- A token that was live and is not any more has been removed by some move. -/
lemma removes_of_gone {i k : Nat} {t : SessionToken} (hik : i ≤ k)
    (hlive : (ρ.registry i).IsLive t) (hgone : ¬ (ρ.registry k).IsLive t) : ρ.Removes i k t := by
  induction k, hik using Nat.le_induction with
  | base => exact absurd hlive hgone
  | succ k hik ih =>
    by_cases hk : (ρ.registry k).IsLive t
    · exact ⟨k, hik, Nat.lt_succ_self k, hk, hgone⟩
    · obtain ⟨j, hij, hjk, hremoval⟩ := ih hk
      exact ⟨j, hij, Nat.lt_succ_of_lt hjk, hremoval⟩

/-! ## While a token is live -/

/-- A token keeps its binding for as long as it stays live. -/
lemma mem_bindings_of_live {i k : Nat} {b : Binding} (hik : i ≤ k)
    (hb : b ∈ (ρ.registry i).bindings)
    (hlive : ∀ j, i ≤ j → j ≤ k → (ρ.registry j).IsLive b.token) :
    b ∈ (ρ.registry k).bindings := by
  induction k, hik using Nat.le_induction with
  | base => exact hb
  | succ k hik ih =>
    have hmem : b ∈ (ρ.registry k).bindings :=
      ih fun j hij hjk => hlive j hij (Nat.le_succ_of_le hjk)
    obtain ⟨b', hb', htoken⟩ :=
      Registry.exists_binding_of_isLive (hlive (k + 1) (Nat.le_succ_of_le hik) le_rfl)
    rcases mem_bindings_succ hb' with hold | ⟨-, hdraw, -⟩
    · exact Registry.binding_eq hold hmem htoken ▸ hb'
    · have hfresh : ¬ (ρ.registry k).IsLive (ρ.nextToken k) :=
        ρ.authority.not_isLive_nextToken (ρ.world k).state
      rw [← hdraw, htoken] at hfresh
      exact absurd (Registry.isLive_of_mem hmem) hfresh

/-- What is live and is not removed stays live, with its binding. -/
lemma mem_bindings_of_not_removes {i k : Nat} {b : Binding} (hik : i ≤ k)
    (hb : b ∈ (ρ.registry i).bindings) (hstays : ¬ ρ.Removes i k b.token) :
    b ∈ (ρ.registry k).bindings := by
  refine mem_bindings_of_live hik hb fun j hij hjk => ?_
  by_contra hgone
  obtain ⟨l, hil, hlj, hremoval⟩ := removes_of_gone hij (Registry.isLive_of_mem hb) hgone
  exact hstays ⟨l, hil, Nat.lt_of_lt_of_le hlj hjk, hremoval⟩

/-! ## Over a whole run -/

/-- A move that draws no token issues none. -/
lemma issued_succ_of_eq {k : Nat} (h : ρ.drawn (k + 1) = ρ.drawn k) :
    ρ.issued (k + 1) = ρ.issued k := by
  rw [issued, if_pos h]

/-- A move that draws a token issues it. -/
lemma issued_succ_of_ne {k : Nat} (h : ρ.drawn (k + 1) ≠ ρ.drawn k) :
    ρ.issued (k + 1) = ρ.issued k ++ [ρ.nextToken k] := by
  rw [issued, if_neg h]

/-- A token that was issued stays so. -/
lemma issued_extends {i k : Nat} (hik : i ≤ k) : ρ.issued i <+: ρ.issued k := by
  induction k, hik using Nat.le_induction with
  | base => exact List.prefix_rfl
  | succ k _ ih =>
    by_cases hdrawn : ρ.drawn (k + 1) = ρ.drawn k
    · exact issued_succ_of_eq hdrawn ▸ ih
    · exact issued_succ_of_ne hdrawn ▸ ih.trans (List.prefix_append _ _)

/-- A live token was issued. -/
lemma isLive_issued {k : Nat} {t : SessionToken} (h : (ρ.registry k).IsLive t) :
    t ∈ ρ.issued k := by
  induction k generalizing t with
  | zero => exact h
  | succ k ih =>
    obtain ⟨b, hb, rfl⟩ := Registry.exists_binding_of_isLive h
    rcases mem_bindings_succ hb with hold | ⟨-, htoken, -, hdrawn⟩
    · exact (issued_extends (Nat.le_succ k)).subset (ih (Registry.isLive_of_mem hold))
    · rw [issued_succ_of_ne (by omega), htoken]
      exact List.mem_append_right _ (List.mem_singleton_self _)

/-- Behind the last move no tokens are issued. -/
lemma issued_of_length_le {k : Nat} (hk : ρ.moves.length ≤ k) :
    ρ.issued k = ρ.issued ρ.moves.length := by
  induction k, hk using Nat.le_induction with
  | base => rfl
  | succ k hk ih =>
    have hworld : ρ.world (k + 1) = ρ.world k := world_succ_of_none (List.getElem?_eq_none hk)
    rw [issued_succ_of_eq (by rw [drawn, drawn, hworld]), ih]

/-- No token is issued twice. -/
lemma TokensDistinct.nodup (h : ρ.TokensDistinct) (k : Nat) : (ρ.issued k).Nodup := by
  rcases Nat.le_total k ρ.moves.length with hk | hk
  · exact (issued_extends hk).sublist.nodup h
  · rw [issued_of_length_le hk]
    exact h

/-- A token that is drawn has not been issued before. -/
lemma TokensDistinct.not_mem_issued (h : ρ.TokensDistinct) {k : Nat}
    (hdrawn : ρ.drawn (k + 1) ≠ ρ.drawn k) : ρ.nextToken k ∉ ρ.issued k := by
  intro hmem
  have hnodup := h.nodup (k + 1)
  rw [issued_succ_of_ne hdrawn] at hnodup
  exact (List.nodup_append.mp hnodup).2.2 _ hmem _ (List.mem_singleton_self _) rfl

/-- A token that is drawn has never been live. -/
lemma TokensDistinct.never_isLive (h : ρ.TokensDistinct) {j k : Nat}
    (hdrawn : ρ.drawn (k + 1) = ρ.drawn k + 1) (hjk : j ≤ k) :
    ¬ (ρ.registry j).IsLive (ρ.nextToken k) := by
  intro hlive
  have hnew := h.not_mem_issued (k := k) (by omega)
  exact hnew ((issued_extends hjk).subset (isLive_issued hlive))

/-- A token that was live once and is not live now is not live after the next move. -/
lemma TokensDistinct.not_isLive_succ (h : ρ.TokensDistinct) {i k : Nat} {t : SessionToken}
    (hik : i ≤ k) (hlive : (ρ.registry i).IsLive t) (hgone : ¬ (ρ.registry k).IsLive t) :
    ¬ (ρ.registry (k + 1)).IsLive t := by
  intro hback
  obtain ⟨b, hb, rfl⟩ := Registry.exists_binding_of_isLive hback
  rcases mem_bindings_succ hb with hold | ⟨-, htoken, -, hdrawn⟩
  · exact hgone (Registry.isLive_of_mem hold)
  · have hnew := h.not_mem_issued (k := k) (by omega)
    exact hnew (htoken ▸ (issued_extends hik).subset (isLive_issued hlive))

/-- A token that is gone is gone for good. -/
lemma TokensDistinct.not_isLive_of_gone (h : ρ.TokensDistinct) {i j k : Nat} {t : SessionToken}
    (hij : i ≤ j) (hjk : j ≤ k) (hlive : (ρ.registry i).IsLive t)
    (hgone : ¬ (ρ.registry j).IsLive t) : ¬ (ρ.registry k).IsLive t := by
  induction k, hjk using Nat.le_induction with
  | base => exact hgone
  | succ k hjk ih => exact h.not_isLive_succ (hij.trans hjk) hlive ih

/-- In a whole run a token has one binding. -/
lemma TokensDistinct.binding_eq (h : ρ.TokensDistinct) {i k : Nat} {b b' : Binding} (hik : i ≤ k)
    (hb : b ∈ (ρ.registry i).bindings) (hb' : b' ∈ (ρ.registry k).bindings)
    (htoken : b.token = b'.token) : b = b' := by
  -- A live token was live at all times in between, for otherwise it would not be live now.
  have hlive : ∀ j, i ≤ j → j ≤ k → (ρ.registry j).IsLive b.token := by
    intro j hij hjk
    by_contra hgone
    exact h.not_isLive_of_gone hij hjk (Registry.isLive_of_mem hb) hgone
      (htoken ▸ Registry.isLive_of_mem hb')
  exact Registry.binding_eq (mem_bindings_of_live hik hb hlive) hb' htoken

end Run

end Admittance
