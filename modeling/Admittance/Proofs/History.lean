import Admittance.Proofs.Outcome
import Admittance.Proofs.Turnover

/-!
# A session tells its own history

A session changes hands, loses its connection, is looked up, is presented by joins that are refused
and is spared by sweeps.  All of this may happen in any order, and all that the session remembers
of it is when it was opened and when a connection was last attached to it.  A move opened it with
the token, the machine, the identity, the conference and the moment of creation that it still has
(`Run.OpenedAt`), and the time of its last use is that of the latest attachment since, or else that
of its creation (`Run.LastUsed`).  `Run.trueToHistory` says so of every session in every world that
a run comes to.

The induction is on the number of moves.  One move's share is `Turnover.origin`: a session that is
there behind a move was there before it or has just been opened.
-/

namespace Admittance

variable {η : Type}

namespace Run

variable {ρ : Run η} {o : SearchOrder} {i k : Nat} {t : SessionToken}

/-- Move `i` opened the session, and it has been live from then on up to the world that move `k`
finds. -/
structure OpenedAt (ρ : Run η) (o : SearchOrder) (i k : Nat) (x : Session) : Prop where
  before : i < k
  /-- The session still has what it was opened with. -/
  opening : ∃ y, ρ.opening? o i = some y ∧ x.binding = y.binding
  createdAt : x.createdAt = ρ.nowIn o i
  unused : ¬ (ρ.registryIn o i).IsLive x.token
  live : ∀ j, i < j → j ≤ k → (ρ.registryIn o j).IsLive x.token

/-- When a session that was opened by move `i` was last used before move `k`: a connection was
attached to it then and none since, or nobody has used it after it was opened. -/
inductive LastUsed (ρ : Run η) (o : SearchOrder) (i k : Nat) (t : SessionToken) : Instant → Prop
  | attached (j : Nat) (since : i ≤ j) (before : j < k) (attaches : ρ.attachedTo? o j = some t)
      (last : ∀ l, j < l → l < k → ρ.attachedTo? o l ≠ some t) :
      LastUsed ρ o i k t (ρ.nowIn o j)
  | never (none : ∀ j, i ≤ j → j < k → ρ.attachedTo? o j ≠ some t) :
      LastUsed ρ o i k t (ρ.nowIn o i)

/-! ## One more move -/

/-- A session that goes on living goes on having been opened by the same move. -/
lemma OpenedAt.succ {x x' : Session} (h : ρ.OpenedAt o i k x)
    (hbinding : x'.binding = x.binding) (hlive : (ρ.registryIn o (k + 1)).IsLive x'.token) :
    ρ.OpenedAt o i (k + 1) x' := by
  have htoken : x'.token = x.token := congrArg Binding.token hbinding
  have hcreated : x'.createdAt = x.createdAt := congrArg Binding.createdAt hbinding
  obtain ⟨y, hopening, hxy⟩ := h.opening
  refine ⟨Nat.lt_succ_of_lt h.before, ⟨y, hopening, hbinding.trans hxy⟩,
    hcreated.trans h.createdAt, htoken ▸ h.unused, fun j hij hjk => ?_⟩
  rcases Nat.le_succ_iff.mp hjk with hjk | rfl
  · exact htoken ▸ h.live j hij hjk
  · exact hlive

/-- An attachment is the last use from then on. -/
lemma LastUsed.ofAttached (hik : i ≤ k) (hnow : ρ.attachedTo? o k = some t) :
    ρ.LastUsed o i (k + 1) t (ρ.nowIn o k) := by
  refine .attached k hik (Nat.lt_succ_self k) hnow ?_
  intro l hkl hlk
  omega

/-- What is no attachment is no use. -/
lemma LastUsed.succ {used : Instant} (h : ρ.LastUsed o i k t used)
    (hnot : ρ.attachedTo? o k ≠ some t) : ρ.LastUsed o i (k + 1) t used := by
  cases h with
  | attached j since before attaches last =>
    refine .attached j since (Nat.lt_succ_of_lt before) attaches fun l hjl hlk => ?_
    rcases Nat.lt_succ_iff_lt_or_eq.mp hlk with hlk | rfl
    · exact last l hjl hlk
    · exact hnot
  | never none =>
    refine .never fun j hij hjk => ?_
    rcases Nat.lt_succ_iff_lt_or_eq.mp hjk with hjk | rfl
    · exact none j hij hjk
    · exact hnot

/-! ## Whole runs -/

/-- **Every session was opened by a move, and remembers its last use.** -/
theorem exists_openedAt (h : ρ.start.registry.sessions = []) (o : SearchOrder) (k : Nat) :
    ∀ x ∈ (ρ.registryIn o k).sessions,
      ∃ i, ρ.OpenedAt o i k x ∧ ρ.LastUsed o i k x.token x.lastActivity := by
  induction k with
  | zero =>
    intro x hx
    have hmem : x ∈ ρ.start.registry.sessions := Registry.mem_arranged.mp hx
    rw [h] at hmem
    exact absurd hmem (by simp)
  | succ k ih =>
    intro x' hx'
    have hlive : (ρ.registryIn o (k + 1)).IsLive x'.token :=
      Registry.isLive_of_mem (Registry.binding_mem hx')
    rcases (ρ.turnover o k).origin hx' with ⟨x, hx, hbinding, hused⟩ | ⟨y, hopened, hbinding, hused⟩
    · obtain ⟨i, hopened, hlast⟩ := ih x hx
      have htoken : x'.token = x.token := congrArg Binding.token hbinding
      refine ⟨i, hopened.succ hbinding hlive, ?_⟩
      by_cases hattached : attachedTo (ρ.attachment? o k) = some x.token
      · rw [hused, htoken, if_pos hattached]
        exact .ofAttached (Nat.le_of_lt hopened.before) hattached
      · rw [hused, htoken, if_neg hattached]
        exact hlast.succ hattached
    · have htoken : x'.token = y.token := congrArg Binding.token hbinding
      obtain ⟨hunused, hcreated, -⟩ := (ρ.turnover o k).opens y hopened
      have hcreated' : x'.createdAt = y.createdAt := congrArg Binding.createdAt hbinding
      refine ⟨k, ⟨Nat.lt_succ_self k, ⟨y, hopened, hbinding⟩, hcreated'.trans hcreated,
        htoken ▸ hunused, fun j hkj hjk => ?_⟩, ?_⟩
      · obtain rfl : j = k + 1 := by omega
        exact hlive
      · rw [hused]
        by_cases hattached : ρ.attachedTo? o k = some x'.token
        · exact .ofAttached (Nat.le_refl k) hattached
        · refine .never fun j hkj hjk => ?_
          obtain rfl : j = k := by omega
          exact hattached

/-- A session is used after it was opened, and not in the future. -/
lemma LastUsed.bounds {used : Instant} (h : ρ.LastUsed o i k t used) (hik : i < k) :
    ρ.nowIn o i ≤ used ∧ used ≤ ρ.nowIn o k := by
  cases h with
  | attached j since before _ _ =>
    exact ⟨ρ.nowIn_le o since, ρ.nowIn_le o (Nat.le_of_lt before)⟩
  | never _ => exact ⟨Int.le_refl _, ρ.nowIn_le o (Nat.le_of_lt hik)⟩

/-- How the sessions that move `k` finds stand to what has happened so far. -/
structure TrueToHistory (ρ : Run η) (o : SearchOrder) (k : Nat) : Prop where
  /-- A session has what it was opened with, and the time of its last use. -/
  opened : ∀ x ∈ (ρ.registryIn o k).sessions,
    ∃ i, ρ.OpenedAt o i k x ∧ ρ.LastUsed o i k x.token x.lastActivity
  /-- It is used after it was opened, and not in the future. -/
  ordered : ∀ x ∈ (ρ.registryIn o k).sessions,
    x.createdAt ≤ x.lastActivity ∧ x.lastActivity ≤ ρ.nowIn o k
  /-- Whatever move `k` does, a session that it spares keeps what it was opened with, and its time
  of last use too unless a connection is attached to it. -/
  steady : ∀ x ∈ (ρ.registryIn o k).sessions, (ρ.registryIn o (k + 1)).IsLive x.token →
    ∃ x' ∈ (ρ.registryIn o (k + 1)).sessions, x'.binding = x.binding ∧
      x'.lastActivity = if ρ.attachedTo? o k = some x.token then ρ.nowIn o k else x.lastActivity

/-- **A session is true to its history.** -/
theorem trueToHistory (h : ρ.start.registry.sessions = []) (o : SearchOrder) (k : Nat) :
    ρ.TrueToHistory o k := by
  have hopened := exists_openedAt h o k
  refine ⟨hopened, fun x hx => ?_, fun x hx hlive => (ρ.turnover o k).exists_successor hx hlive⟩
  obtain ⟨i, hat, hlast⟩ := hopened x hx
  rw [hat.createdAt]
  exact hlast.bounds hat.before

/-- A device opens a session for one conference, and uses it for another one ten milliseconds
later. -/
def reused : Run Unit where
  authority := .sample .reverify
  start := .initial 0 none ()
  moves := [.arrive 0 (.join (.plain "desk" "room") ⟨"wire"⟩), .enter 0 true,
    .answer 0 (.ok (.plain "ann")), .enter 0 true, .wait 10000000,
    .arrive 1 (.join (.plain "desk" "hall") ⟨"radio"⟩), .enter 1 true,
    .answer 1 (.ok (.plain "ann")), .enter 1 true]

/-- The conference is the first one, and the time of the last use that of the second join. -/
theorem reused_trueToHistory :
    reused.start.registry.sessions = [] ∧ reused.TrueToHistory .alternating 9 ∧
      reused.attachedTo? .alternating 8 = some (.ofNumber 0) ∧
      (reused.registryIn .alternating 9).sessions =
        [⟨.ofNumber 0, "desk", "ann", "room", some ⟨"radio"⟩, 10000000, 0⟩] :=
  ⟨rfl, trueToHistory rfl .alternating 9, by decide, by decide⟩

/-- The reuse of a session for another conference counts as a use: the session keeps the conference
that it was opened for, but not the time of its last use. -/
theorem reuse_refreshes :
    reused.Joins 8 1 (.plain "desk" "hall") ⟨"radio"⟩ ⟨"ann", .ofNumber 0⟩ ∧
      ∃ x ∈ (reused.registry 8).sessions, ∃ x' ∈ (reused.registry 9).sessions,
        x.token = .ofNumber 0 ∧ x.conferenceName = "room" ∧ x'.binding = x.binding ∧
          x'.lastActivity ≠ x.lastActivity := by
  have hjoins : reused.Joins 8 1 (.plain "desk" "hall") ⟨"radio"⟩ ⟨"ann", .ofNumber 0⟩ :=
    ⟨⟨rfl, rfl⟩, rfl⟩
  refine ⟨hjoins, ⟨.ofNumber 0, "desk", "ann", "room", some ⟨"wire"⟩, 0, 0⟩, by decide,
    ⟨.ofNumber 0, "desk", "ann", "room", some ⟨"radio"⟩, 10000000, 0⟩, by decide, rfl, rfl, rfl,
    by decide⟩

end Run

end Admittance
