import Admittance.Proofs.Report

/-!
# The events tell which sessions there are

A host that keeps all events of its sink knows the registry without looking at it.  Read in order,
adding a session at each creation and striking it out at each removal (`Event.replay`), the events
give the live sessions with their machines and identities, after every move of every run; and about
a single token they tell nothing, a creation, or a creation and then a removal (`Run.Life`).
`Run.eventLog` states it.  Both invariants follow from what one move tells (`Told`): a creation
stands for the binding that comes to the list, and the removals for the bindings that go.
-/

namespace Admittance

variable {η : Type}

/-! ## Reading events -/

/-- What the events tell of a live session. -/
structure Entry where
  token : SessionToken
  identity : String
  machineId : String
  deriving DecidableEq

/-- What is to be told of a session. -/
def Binding.entry (b : Binding) : Entry := ⟨b.token, b.identity, b.machineId⟩

/-- The event is the creation of a session. -/
def Event.isCreation : Event → Bool
  | .created .. => true
  | .destroyed .. => false

/-- The event is the removal of a session. -/
def Event.isRemoval : Event → Bool
  | .created .. => false
  | .destroyed .. => true

/-- Follows an event: a session is added when it is created and struck out when it is removed. -/
def Event.replay (entries : List Entry) : Event → List Entry
  | .created token identity machineId _ => entries ++ [⟨token, identity, machineId⟩]
  | .destroyed token _ _ _ => entries.filter (·.token ≠ token)

/-- The live sessions according to the events. -/
def replay (events : List Event) : List Entry := events.foldl Event.replay []

/-- Removals strike out all sessions that they are about. -/
lemma foldl_replay_removals (reason : RemovalReason) (gone : List Binding) (entries : List Entry) :
    (gone.map (·.removal reason)).foldl Event.replay entries =
      entries.filter fun e => e.token ∉ gone.map Binding.token := by
  induction gone generalizing entries with
  | nil => simp
  | cons b gone ih =>
    rw [List.map_cons, List.foldl_cons, ih, Binding.removal, Event.replay, List.filter_filter]
    refine List.filter_congr fun e _ => ?_
    rw [Bool.eq_iff_iff]
    simp only [Bool.and_eq_true, decide_eq_true_eq, ne_eq, List.map_cons, List.mem_cons, not_or]
    exact and_comm

/-- Where no token comes twice, the removals of some sessions leave the others. -/
lemma foldl_replay_doomed (reason : RemovalReason) (doomed : Binding → Bool)
    {bindings : List Binding} (hnodup : (bindings.map Binding.token).Nodup) :
    ((bindings.filter doomed).map (·.removal reason)).foldl Event.replay
        (bindings.map Binding.entry) =
      (bindings.filter fun b => !doomed b).map Binding.entry := by
  rw [foldl_replay_removals, List.filter_map]
  refine congrArg (List.map _) (List.filter_congr fun b hb => ?_)
  have hdoomed : b.token ∈ (bindings.filter doomed).map Binding.token ↔ doomed b = true := by
    constructor
    · intro htoken
      obtain ⟨b', hb', hsame⟩ := List.mem_map.mp htoken
      obtain ⟨hmem, hgone⟩ := List.mem_filter.mp hb'
      exact List.inj_on_of_nodup_map hnodup hmem hb hsame ▸ hgone
    · exact fun hgone => List.mem_map_of_mem (List.mem_filter.mpr ⟨hb, hgone⟩)
  have hentry : b.entry.token = b.token := rfl
  simp only [Function.comp_apply, hentry, hdoomed]
  simp

/-- Among the events of removals those about one token are the removals of that token's session. -/
lemma filter_removals (reason : RemovalReason) (doomed : Binding → Bool) (t : SessionToken)
    (bindings : List Binding) :
    ((bindings.filter doomed).map (·.removal reason)).filter (·.token = t) =
      ((bindings.filter (·.token = t)).filter doomed).map (·.removal reason) := by
  rw [List.filter_map, List.filter_filter, List.filter_filter]
  refine congrArg (List.map _) (List.filter_congr fun b _ => ?_)
  exact Bool.and_comm _ _

/-! ## The invariants -/

namespace Run

variable {ρ : Run η} {k : Nat}

/-- What the events tell of the session of a token. -/
def chronicleOf (ρ : Run η) (k : Nat) (t : SessionToken) : List Event :=
  (ρ.chronicle k).filter (·.token = t)

/-- The three things that may have happened to a token in the first `k` moves, and what the events
tell of it. -/
inductive Life (ρ : Run η) (k : Nat) (t : SessionToken) : Prop
  /-- It never had a session, and nothing is told of it. -/
  | unborn (never : ∀ j ≤ k, ¬ (ρ.registry j).IsLive t) (told : ρ.chronicleOf k t = [])
  /-- Its session is live, and what is told is that it was created. -/
  | living (b : Binding) (mem : b ∈ (ρ.registry k).bindings) (token : b.token = t)
      (properties : TextMap) (told : ρ.chronicleOf k t = [b.creation properties])
  /-- Its session is gone, and what is told is that it was created and then removed. -/
  | ended (b : Binding) (j : Nat) (before : j < k) (mem : b ∈ (ρ.registry j).bindings)
      (token : b.token = t) (gone : ¬ (ρ.registry k).IsLive t) (properties : TextMap)
      (reason : RemovalReason)
      (told : ρ.chronicleOf k t = [b.creation properties, b.removal reason])

/-- Of what is told next, the events about a token are told of it. -/
lemma chronicleOf_append {more : List Event} (h : ρ.chronicle (k + 1) = ρ.chronicle k ++ more)
    (t : SessionToken) :
    ρ.chronicleOf (k + 1) t = ρ.chronicleOf k t ++ more.filter (·.token = t) := by
  rw [chronicleOf, h, List.filter_append]
  rfl

/-- Nothing is told of a token whose session stays as it is. -/
lemma Life.succ_of_untold {t : SessionToken} (h : ρ.Life k t)
    (htold : ρ.chronicleOf (k + 1) t = ρ.chronicleOf k t)
    (hstays : ∀ b ∈ (ρ.registry k).bindings, b.token = t → b ∈ (ρ.registry (k + 1)).bindings)
    (hdead : ¬ (ρ.registry k).IsLive t → ¬ (ρ.registry (k + 1)).IsLive t) :
    ρ.Life (k + 1) t := by
  cases h with
  | unborn never told =>
    refine .unborn (fun j hj => ?_) (htold.trans told)
    rcases Nat.le_succ_iff.mp hj with hj | rfl
    · exact never j hj
    · exact hdead (never k (Nat.le_refl k))
  | living b mem token properties told =>
    exact .living b (hstays b mem token) token properties (htold.trans told)
  | ended b j before mem token gone properties reason told =>
    exact .ended b j (Nat.lt_succ_of_lt before) mem token (hdead gone) properties reason
      (htold.trans told)

/-- A session comes to life with its creation. -/
lemma Life.succ_of_opened {t : SessionToken} (h : ρ.Life k t) {b : Binding} {properties : TextMap}
    (hnew : ∀ j ≤ k, ¬ (ρ.registry j).IsLive b.token)
    (hbindings : (ρ.registry (k + 1)).bindings = (ρ.registry k).bindings ++ [b])
    (htold : ρ.chronicle (k + 1) = ρ.chronicle k ++ [b.creation properties]) :
    ρ.Life (k + 1) t := by
  have hlog := chronicleOf_append htold t
  by_cases ht : b.token = t
  · subst ht
    have hcreated : [b.creation properties].filter (·.token = b.token) =
        [b.creation properties] := by simp
    rw [hcreated] at hlog
    -- The token has just been drawn, so nothing can have been told of it before.
    cases h with
    | unborn never told =>
      have hmem : b ∈ (ρ.registry (k + 1)).bindings :=
        hbindings ▸ List.mem_append_right _ (List.mem_singleton_self b)
      exact .living b hmem rfl properties (by rw [hlog, told, List.nil_append])
    | living b' mem token _ _ =>
      exact absurd (token ▸ Registry.isLive_of_mem mem) (hnew k (Nat.le_refl k))
    | ended b' j before mem token _ _ _ _ =>
      exact absurd (token ▸ Registry.isLive_of_mem mem) (hnew j (Nat.le_of_lt before))
  · have hother : [b.creation properties].filter (·.token = t) = [] := by simp [ht]
    rw [hother, List.append_nil] at hlog
    refine h.succ_of_untold hlog ?_ fun hdead hback => ?_
    · exact fun b' hb' _ => hbindings ▸ List.mem_append_left _ hb'
    · obtain ⟨b', hb', htoken⟩ := Registry.exists_binding_of_isLive hback
      rw [hbindings, List.mem_append, List.mem_singleton] at hb'
      rcases hb' with hb' | rfl
      · exact hdead (htoken ▸ Registry.isLive_of_mem hb')
      · exact ht htoken

/-- A session that is removed is over, and the others stay. -/
lemma Life.succ_of_removed {t : SessionToken} (h : ρ.Life k t) {doomed : Binding → Bool}
    {reason : RemovalReason}
    (hbindings : (ρ.registry (k + 1)).bindings =
      (ρ.registry k).bindings.filter fun b => !doomed b)
    (htold : ρ.chronicle (k + 1) =
      ρ.chronicle k ++ ((ρ.registry k).bindings.filter doomed).map (·.removal reason)) :
    ρ.Life (k + 1) t := by
  have hlog := chronicleOf_append htold t
  rw [filter_removals] at hlog
  have hdead : ¬ (ρ.registry k).IsLive t → ¬ (ρ.registry (k + 1)).IsLive t := by
    intro hdead hback
    obtain ⟨b, hb, rfl⟩ := Registry.exists_binding_of_isLive hback
    rw [hbindings] at hb
    exact hdead (Registry.isLive_of_mem (List.mem_filter.mp hb).1)
  -- Of the removals that are told, at most one is about this token: the one of its own session.
  rcases (ρ.registry k).bindings_of_token t with ⟨b, hb, rfl, honly⟩ | ⟨hdead', hnone⟩
  · rw [honly] at hlog
    have hstays := Registry.isLive_iff_of_filter hbindings hb
    have hsame : ∀ b' ∈ (ρ.registry k).bindings, b'.token = b.token → b' = b :=
      fun b' hb' htoken => Registry.binding_eq hb' hb htoken
    cases hdoomed : doomed b with
    | false =>
      have hnone : [b].filter doomed = [] := by simp [hdoomed]
      rw [hnone, List.map_nil, List.append_nil] at hlog
      refine h.succ_of_untold hlog (fun b' hb' htoken => ?_) hdead
      rw [hbindings, hsame b' hb' htoken]
      exact List.mem_filter.mpr ⟨hb, by rw [hdoomed]; rfl⟩
    | true =>
      have hone : [b].filter doomed = [b] := by simp [hdoomed]
      rw [hone] at hlog
      have hlive : (ρ.registry k).IsLive b.token := Registry.isLive_of_mem hb
      have hgone : ¬ (ρ.registry (k + 1)).IsLive b.token := by
        rw [hstays, hdoomed]
        simp
      cases h with
      | unborn never _ => exact absurd hlive (never k (Nat.le_refl k))
      | living b' mem token properties told =>
        obtain rfl : b' = b := hsame b' mem token
        exact .ended b' k (Nat.lt_succ_self k) mem rfl hgone properties reason
          (by rw [hlog, told]; rfl)
      | ended _ _ _ _ _ gone _ _ _ => exact absurd hlive gone
  · rw [hnone, List.filter_nil, List.map_nil, List.append_nil] at hlog
    refine h.succ_of_untold hlog (fun b hb htoken => ?_) hdead
    exact absurd (htoken ▸ Registry.isLive_of_mem hb) hdead'

/-- **Of every token nothing is told, its creation, or its creation and then its removal.** -/
theorem life (h : ρ.Recorded) (hdistinct : ρ.TokensDistinct) (k : Nat) (t : SessionToken) :
    ρ.Life k t := by
  induction k with
  | zero =>
    refine .unborn (fun j hj hlive => ?_) ?_
    · obtain rfl : j = 0 := Nat.le_zero.mp hj
      rw [Registry.IsLive, Registry.tokens, h.bindings_zero] at hlive
      exact absurd hlive (by simp)
    · rw [chronicleOf, h.chronicle_zero, List.filter_nil]
  | succ k ih =>
    cases h.written k with
    | opened b properties bindings token drawn chronicle _ =>
      refine ih.succ_of_opened (fun j hj => ?_) bindings chronicle
      rw [token]
      exact hdistinct.never_isLive drawn hj
    | removed doomed reason bindings chronicle _ => exact ih.succ_of_removed bindings chronicle

/-- **The events give the live sessions.** -/
theorem replay_chronicle (h : ρ.Recorded) (k : Nat) :
    replay (ρ.chronicle k) = (ρ.registry k).bindings.map Binding.entry := by
  induction k with
  | zero =>
    rw [h.chronicle_zero, h.bindings_zero]
    rfl
  | succ k ih =>
    rw [replay] at ih
    cases h.written k with
    | opened b properties bindings _ _ chronicle _ =>
      rw [replay, chronicle, bindings, List.foldl_append, ih, List.map_append]
      rfl
    | removed doomed reason bindings chronicle _ =>
      rw [replay, chronicle, bindings, List.foldl_append, ih]
      exact foldl_replay_doomed reason doomed (ρ.registry k).nodup_tokens

/-- **Every session that was created is live or has been removed.** -/
theorem size_add_removals (h : ρ.Recorded) (k : Nat) :
    (ρ.registry k).size + (ρ.chronicle k).countP Event.isRemoval =
      (ρ.chronicle k).countP Event.isCreation := by
  have hsize : ∀ k, (ρ.registry k).size = (ρ.registry k).bindings.length := fun k =>
    (List.length_map _).symm
  induction k with
  | zero => simp [hsize, h.bindings_zero, h.chronicle_zero]
  | succ k ih =>
    rw [hsize] at ih ⊢
    cases h.written k with
    | opened b properties bindings _ _ chronicle _ =>
      have hcreation : [b.creation properties].countP Event.isCreation = 1 := rfl
      have hremoval : [b.creation properties].countP Event.isRemoval = 0 := rfl
      rw [chronicle, bindings, List.countP_append, List.countP_append, List.length_append,
        hcreation, hremoval, List.length_singleton]
      omega
    | removed doomed reason bindings chronicle _ =>
      have hsplit := List.length_eq_length_filter_add (l := (ρ.registry k).bindings) doomed
      have hcreations : ∀ gone : List Binding,
          (gone.map (·.removal reason)).countP Event.isCreation = 0 := fun gone => by
        simp [Binding.removal, Event.isCreation]
      have hremovals : ∀ gone : List Binding,
          (gone.map (·.removal reason)).countP Event.isRemoval = gone.length := fun gone => by
        simp [List.countP_eq_length, Binding.removal, Event.isRemoval]
      rw [chronicle, bindings, List.countP_append, List.countP_append, hcreations, hremovals]
      omega

/-- What the events tell after `k` moves. -/
structure EventLog (ρ : Run η) (k : Nat) : Prop where
  /-- Of every token they tell nothing, its creation, or its creation and then its removal. -/
  life : ∀ t, ρ.Life k t
  /-- Read in order, they give the live sessions with their machines and identities. -/
  replayed : replay (ρ.chronicle k) = (ρ.registry k).bindings.map Binding.entry
  /-- There are as many sessions as there are creations without a removal. -/
  size : (ρ.registry k).size + (ρ.chronicle k).countP Event.isRemoval =
    (ρ.chronicle k).countP Event.isCreation

/-- **The events determine the registry.** -/
theorem eventLog (h : ρ.Recorded) (hdistinct : ρ.TokensDistinct) (k : Nat) : ρ.EventLog k :=
  ⟨life h hdistinct k, replay_chronicle h k, size_add_removals h k⟩

/-- Two sessions are opened; then one is given up, and the conference of the other ends. -/
def visited : Run Unit where
  authority := .sample .reverify
  start := .initial 0 (some ⟨"log", false⟩) ()
  moves := [.arrive 0 (.join (.plain "desk" "room") ⟨"wire"⟩), .enter 0 true,
    .answer 0 (.ok (.plain "ann")), .enter 0 true, .arrive 1 (.create "lamp" "bob" "hall" .empty),
    .enter 1 true, .arrive 2 (.logout (.ofNumber 0)), .enter 2 true,
    .receive ⟨0, .listening⟩ ⟨1, ["hall"], false⟩]

/-- The events of the two sessions tell which of them is left. -/
theorem visited_eventLog :
    visited.Recorded ∧ visited.TokensDistinct ∧ visited.EventLog 8 ∧
      replay (visited.chronicle 8) = [⟨.ofNumber 1, "bob", "lamp"⟩] ∧
      (visited.chronicle 9).countP Event.isRemoval = 2 := by
  have hrecorded : visited.Recorded := ⟨rfl, rfl, ⟨⟨"log", false⟩, rfl, rfl⟩, by decide⟩
  have hdistinct : visited.TokensDistinct := by decide
  exact ⟨hrecorded, hdistinct, eventLog hrecorded hdistinct 8, by decide, by decide⟩

end Run

end Admittance
