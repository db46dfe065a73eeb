import Admittance.Message

/-!
# Drawing a token

Tokens come up at random, one after the other, until one comes up that is not in use.  A `Drawing`
is all that comes up for one new session.  Nothing is looked at behind the first token that is not
in use, so that a drawing may go on in any way from there, and it is no restriction that some
token in it is unused whatever the tokens in use are.
-/

namespace Admittance

/-- The tokens that come up for a new session, in order. -/
structure Drawing where
  token : Nat → SessionToken
  /-- How many of them are enough if only these are in use. -/
  enough : List SessionToken → Nat
  unused : ∀ used, ∃ i < enough used, token i ∉ used

namespace Drawing

/-- Passes over the tokens that are in use, from number `i` on and `fuel` of them at most. -/
def passOver (d : Drawing) (used : List SessionToken) : (fuel i : Nat) → Nat
  | 0, i => i
  | fuel + 1, i => if d.token i ∈ used then d.passOver used fuel (i + 1) else i

/-- How many tokens come up in vain. -/
def collisions (d : Drawing) (used : List SessionToken) : Nat := d.passOver used (d.enough used) 0

/-- The first token that is not in use. -/
def result (d : Drawing) (used : List SessionToken) : SessionToken := d.token (d.collisions used)

/-- If a token within reach is not in use, the one that is drawn is not. -/
theorem passOver_not_mem {d : Drawing} {used : List SessionToken} {fuel i j : Nat} (hij : i ≤ j)
    (hj : j < i + fuel) (hunused : d.token j ∉ used) :
    d.token (d.passOver used fuel i) ∉ used := by
  induction fuel generalizing i with
  | zero => omega
  | succ fuel ih =>
    unfold passOver
    split
    · rename_i hused
      have hne : i ≠ j := fun heq => hunused (heq ▸ hused)
      exact ih (by omega) (by omega)
    · rename_i hfirst
      exact hfirst

/-- The token that is drawn is not in use. -/
theorem result_not_mem (d : Drawing) (used : List SessionToken) : d.result used ∉ used := by
  obtain ⟨j, hj, hunused⟩ := d.unused used
  exact passOver_not_mem (Nat.zero_le j) (by omega) hunused

/-- The text of so many zeros. -/
def zeros (n : Nat) : SessionToken := ⟨String.ofList (List.replicate n '0')⟩

/-- Different numbers of zeros are different texts. -/
theorem zeros_inj {m n : Nat} (h : zeros m = zeros n) : m = n := by
  have hlists : List.replicate m '0' = List.replicate n '0' :=
    String.ofList_injective (congrArg SessionToken.text h)
  simpa using congrArg List.length hlists

/-- Finitely many tokens leave one of the texts of zeros unused. -/
theorem exists_zeros_not_mem (used : List SessionToken) :
    ∃ i < used.length + 1, zeros i ∉ used := by
  refine Classical.byContradiction fun hnone => ?_
  have hall : (List.range (used.length + 1)).map zeros ⊆ used := by
    intro t ht
    obtain ⟨i, hi, rfl⟩ := List.mem_map.mp ht
    refine Classical.byContradiction fun hunused => hnone ⟨i, List.mem_range.mp hi, hunused⟩
  have hnodup : ((List.range (used.length + 1)).map zeros).Nodup :=
    List.Pairwise.map zeros (fun _ _ hne heq => hne (zeros_inj heq)) List.nodup_range
  have hle := hnodup.length_le_of_subset hall
  rw [List.length_map, List.length_range] at hle
  exact Nat.not_succ_le_self _ hle

/-- The drawing in which `t` comes up first; what comes up after it is of no interest unless `t` is
in use. -/
def ofFirst (t : SessionToken) : Drawing where
  token
    | 0 => t
    | i + 1 => zeros i
  enough used := used.length + 2
  unused used :=
    have ⟨i, hi, hunused⟩ := exists_zeros_not_mem used
    ⟨i + 1, Nat.succ_lt_succ hi, hunused⟩

end Drawing

end Admittance
