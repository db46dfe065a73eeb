import Admittance.Proofs.Effect
import Admittance.Proofs.Keying

/-!
# Which session a connection uses

Connections move between sessions, sessions go over from one connection to another, and sessions
disappear, all in any order.  The search for a connection's session goes through the sessions as
they come up and takes the first that fits, so that it is worth something only if no other session
fits.  What a move may do to the connections has two shapes (`Rewired`): either some sessions are
gone or new and the others keep their connections, or one connection turns to one session and both
are free of everything they had before.

From this the answer of the search is known by what has happened: a connection uses the session that
it was attached to last, provided that no other connection was attached to it since and that it has
stayed live (`Run.uses_iff`).  `Run.exactLookup` states this of the searches themselves, in whatever
order the sessions come up, together with what is true of the store that the sessions are kept in:
every session is under its own token.
-/

namespace Admittance

variable {η : Type}

/-! ## Connections of a registry -/

namespace Registry

variable {r r' : Registry} {p : PeerAddress} {t : SessionToken}

/-- A connection uses the session of a token. -/
def Uses (r : Registry) (p : PeerAddress) (t : SessionToken) : Prop :=
  ∃ x ∈ r.sessions, x.token = t ∧ x.peer = some p

/-- A session that is used is live. -/
lemma Uses.isLive (h : r.Uses p t) : r.IsLive t := by
  obtain ⟨x, hx, rfl, -⟩ := h
  exact isLive_of_mem (binding_mem hx)

/-- A token is looked up in a registry with one more session. -/
lemma get?_create (now : Instant) (drawing : Drawing) (machineId identity conferenceName : String)
    (properties : TextMap) :
    (r.create now drawing machineId identity conferenceName properties).registry.get? t =
      if t = r.freshToken drawing then
        some (.opened (r.freshToken drawing) machineId identity conferenceName now)
      else r.get? t := by
  show (r.sessions ++ [Session.opened _ _ _ _ _]).find? (·.token = t) = _
  rw [List.find?_append]
  split
  · rename_i ht
    have hnone : r.get? t = none := get?_eq_none_iff.mpr (ht ▸ not_isLive_freshToken r drawing)
    rw [show r.sessions.find? (·.token = t) = none from hnone, Option.none_or, ht]
    exact List.find?_cons_of_pos (by exact decide_eq_true rfl)
  · rename_i ht
    have hother :
        [Session.opened (r.freshToken drawing) machineId identity conferenceName now].find?
          (·.token = t) = none := by
      have hne : ¬ decide (r.freshToken drawing = t) = true := fun h =>
        ht (of_decide_eq_true h).symm
      exact List.find?_cons_of_neg hne
    rw [hother, Option.or_none]
    rfl

/-- A token is looked up after a connection has turned to a session. -/
lemma get?_reattach (now : Instant) (token : SessionToken) :
    (r.reattach now token p).get? t = (r.get? t).map (reattached now token p) := by
  show (r.sessions.map (reattached now token p)).find? (·.token = t) = _
  rw [List.find?_map]
  have hsame : (fun x : Session => decide (x.token = t)) ∘ reattached now token p =
      fun x => decide (x.token = t) := by
    funext x
    exact congrArg (fun u => decide (u = t)) (reattached_token now token p x)
  rw [hsame]
  rfl

/-- The search by connection finds a session that the connection uses. -/
lemma findByPeer?_eq_some {x : Session} (h : r.findByPeer? p = some x) :
    x ∈ r.sessions ∧ x.peer = some p := by
  unfold findByPeer? at h
  split at h
  · simp at h
  · exact ⟨List.mem_of_find?_eq_some h, by simpa using List.find?_some h⟩

/-- The search by connection fails only if the connection uses no session. -/
lemma not_uses_of_findByPeer?_eq_none (hp : p.isEmpty = false) (h : r.findByPeer? p = none) :
    ¬ r.Uses p t := by
  rintro ⟨x, hx, -, hpeer⟩
  simp only [findByPeer?, hp, Bool.false_eq_true, if_false, List.find?_eq_none,
    decide_eq_true_eq] at h
  exact h x hx hpeer

/-- If a connection uses one session at most, then it is this session that is found. -/
lemma exists_findByPeer?_iff (hp : p.isEmpty = false)
    (hone : ∀ t t', r.Uses p t → r.Uses p t' → t = t') :
    (∃ x, r.get? t = some x ∧ r.findByPeer? p = some x) ↔ r.Uses p t := by
  constructor
  · rintro ⟨x, hget, hfind⟩
    exact ⟨x, (get?_eq_some hget).1, (get?_eq_some hget).2, (findByPeer?_eq_some hfind).2⟩
  · intro huses
    cases hfind : r.findByPeer? p with
    | none => exact absurd huses (not_uses_of_findByPeer?_eq_none hp hfind)
    | some x =>
      obtain ⟨hx, hpeer⟩ := findByPeer?_eq_some hfind
      have htoken : x.token = t := hone _ _ ⟨x, hx, rfl, hpeer⟩ huses
      exact ⟨x, get?_eq_some_iff.mpr ⟨hx, htoken⟩, rfl⟩

end Registry

/-! ## The two shapes of a change -/

open Registry

/-- What a move may do to the connections, with the attachment that it makes, if it makes one. -/
inductive Rewired (r r' : Registry) : Option (PeerAddress × SessionToken) → Prop
  /-- The sessions that stay live keep their connections, and new sessions have none. -/
  | kept (uses : ∀ p t, r'.Uses p t ↔ r.Uses p t ∧ r'.IsLive t) : Rewired r r' none
  /-- The connection turns to the session. -/
  | attached (p : PeerAddress) (t : SessionToken) (live : r'.IsLive t)
      (uses : ∀ p' t', r'.Uses p' t' ↔ p' = p ∧ t' = t ∨ p' ≠ p ∧ t' ≠ t ∧ r.Uses p' t') :
      Rewired r r' (some (p, t))

namespace Rewired

variable {r r' r'' : Registry}

/-- Sessions that are gone leave the others their connections. -/
lemma ofSublist (h : r'.sessions.Sublist r.sessions) : Rewired r r' none := by
  refine .kept fun p t => ⟨?_, ?_⟩
  · rintro ⟨x, hx, htoken, hpeer⟩
    exact ⟨⟨x, h.subset hx, htoken, hpeer⟩, htoken ▸ isLive_of_mem (binding_mem hx)⟩
  · rintro ⟨⟨x, hx, htoken, hpeer⟩, hlive⟩
    obtain ⟨y, hy⟩ := isLive_iff_get?.mp hlive
    obtain ⟨hmem, htoken'⟩ := get?_eq_some hy
    have hxy : x = y := session_eq hx (h.subset hmem) (htoken.trans htoken'.symm)
    exact ⟨x, hxy ▸ hmem, htoken, hpeer⟩

/-- Where nothing happens, no connection turns to another session. -/
lemma refl (r : Registry) : Rewired r r none := ofSublist (List.Sublist.refl _)

/-- A removal by token attaches nothing. -/
lemma destroy (r : Registry) (token : SessionToken) :
    Rewired r (r.destroy token).registry none :=
  ofSublist (r.sessions_destroy_sublist token)

/-- A removal of several sessions attaches nothing. -/
lemma removeWhere (r : Registry) (reason : RemovalReason) (doomed : Session → Bool) :
    Rewired r (r.removeWhere reason doomed).registry none :=
  ofSublist (r.sessions_removeWhere_sublist reason doomed)

/-- What changes nothing may come afterwards. -/
lemma thenUnchanged {made : Option (PeerAddress × SessionToken)} {s s' : State η}
    (h : Rewired r s.registry made) (h' : Unchanged s s') : Rewired r s'.registry made :=
  h'.registry ▸ h

/-- A session without a connection takes nobody's connection. -/
lemma ofOpened {x : Session} (h : r'.sessions = r.sessions ++ [x]) (hpeer : x.peer = none) :
    Rewired r r' none := by
  refine .kept fun p t => ⟨fun huses => ⟨?_, huses.isLive⟩, ?_⟩
  · obtain ⟨y, hy, htoken, hpeer'⟩ := huses
    rw [h, List.mem_append, List.mem_singleton] at hy
    rcases hy with hy | rfl
    · exact ⟨y, hy, htoken, hpeer'⟩
    · rw [hpeer] at hpeer'
      exact absurd hpeer' (by simp)
  · rintro ⟨⟨y, hy, htoken, hpeer'⟩, -⟩
    exact ⟨y, h ▸ List.mem_append_left _ hy, htoken, hpeer'⟩

/-- The connection of a session after `p` turned to the session of `t`. -/
lemma peer_reattached (now : Instant) (t : SessionToken) (p : PeerAddress) (x : Session) :
    (reattached now t p x).peer =
      if x.token = t then some p else if x.peer = some p then none else x.peer := by
  unfold reattached
  split
  · rfl
  · split <;> rfl

/-- A connection turns to a live session, and nothing else changes. -/
lemma ofReattach (now : Instant) {t : SessionToken} (p : PeerAddress) (hlive : r.IsLive t) :
    Rewired r (r.reattach now t p) (some (p, t)) := by
  have huses : ∀ p' t', (r.reattach now t p).Uses p' t' ↔
      ∃ x ∈ r.sessions, x.token = t' ∧ (reattached now t p x).peer = some p' := by
    intro p' t'
    simp only [Uses, reattach, List.mem_map, exists_exists_and_eq_and, reattached_token]
  have hnow : (r.reattach now t p).Uses p t := by
    obtain ⟨x, hx⟩ := isLive_iff_get?.mp hlive
    obtain ⟨hmem, htoken⟩ := get?_eq_some hx
    exact (huses p t).mpr ⟨x, hmem, htoken, by rw [peer_reattached, if_pos htoken]⟩
  -- A session is the one of the token, or a rival that loses the connection, or none of both.
  refine .attached p t hnow.isLive fun p' t' => ⟨fun h => ?_, ?_⟩
  · obtain ⟨x, hx, rfl, hpeer⟩ := (huses p' t').mp h
    rw [peer_reattached] at hpeer
    by_cases htoken : x.token = t
    · rw [if_pos htoken] at hpeer
      exact .inl ⟨(Option.some.inj hpeer).symm, htoken⟩
    · rw [if_neg htoken] at hpeer
      by_cases hrival : x.peer = some p
      · rw [if_pos hrival] at hpeer
        exact absurd hpeer (by simp)
      · rw [if_neg hrival] at hpeer
        have hother : p' ≠ p := fun heq => hrival (heq ▸ hpeer)
        exact .inr ⟨hother, htoken, x, hx, rfl, hpeer⟩
  · rintro (⟨rfl, rfl⟩ | ⟨hother, htoken, x, hx, rfl, hpeer⟩)
    · exact hnow
    · have hrival : x.peer ≠ some p := fun heq =>
        hother (Option.some.inj (hpeer.symm.trans heq))
      refine (huses p' _).mpr ⟨x, hx, rfl, ?_⟩
      rw [peer_reattached, if_neg htoken, if_neg hrival, hpeer]

/-- An attachment that is answered by a session. -/
lemma ofAttach (now : Instant) {t : SessionToken} (p : PeerAddress) {x : Session}
    (hx : r.get? t = some x) : Rewired r (r.attach now t p).registry (some (p, t)) := by
  have hreattach := ofReattach now p (isLive_iff_get?.mpr ⟨x, hx⟩)
  simpa only [attach, hx] using hreattach

/-- A change that removes nobody may come before an attachment. -/
lemma thenAttached {p : PeerAddress} {t : SessionToken} (h : Rewired r r' none)
    (hlive : ∀ t, r.IsLive t → r'.IsLive t) (h' : Rewired r' r'' (some (p, t))) :
    Rewired r r'' (some (p, t)) := by
  cases h with
  | kept uses =>
    cases h' with
    | attached _ _ live uses' =>
      refine .attached p t live fun p' t' => ?_
      have hsame : r'.Uses p' t' ↔ r.Uses p' t' :=
        (uses p' t').trans ⟨fun h => h.1, fun h => ⟨h, hlive t' h.isLive⟩⟩
      rw [uses', hsame]

/-- The order in which the sessions come up is no matter. -/
lemma arranged {made : Option (PeerAddress × SessionToken)} (h : Rewired r r' made)
    (o : SearchOrder) (k : Nat) : Rewired r (r'.arranged o k) made := by
  have huses : ∀ p t, (r'.arranged o k).Uses p t ↔ r'.Uses p t := fun p t => by
    simp only [Uses, Registry.mem_arranged]
  cases h with
  | kept uses => exact .kept fun p t => by rw [huses, uses, Registry.isLive_arranged]
  | attached p t live uses =>
    exact .attached p t (Registry.isLive_arranged.mpr live) fun p' t' => by rw [huses, uses]

end Rewired

/-! ## Calls -/

/-- Coming by a session takes nobody's connection and no session. -/
lemma Join.rewired_seat {r : Registry} {now : Instant} {drawing : Drawing} {q : JoinRequest}
    {g : Grant} {st : Seat} (h : seat r now drawing q g = .ok st) :
    Rewired r st.registry none ∧ ∀ t, r.IsLive t → st.registry.IsLive t := by
  have hopened : ∀ m i c properties, Rewired r (r.create now drawing m i c properties).registry
      none ∧ ∀ t, r.IsLive t → (r.create now drawing m i c properties).registry.IsLive t := by
    intro m i c properties
    refine ⟨.ofOpened rfl rfl, fun t ht => ?_⟩
    rw [IsLive, Registry.tokens, Registry.bindings_create, List.map_append]
    exact List.mem_append_left _ ht
  cases g with
  | reuse t =>
    cases hget : r.get? t with
    | none => simp [seat, hget] at h
    | some x =>
      simp only [seat, hget, Except.ok.injEq] at h
      exact h ▸ ⟨.refl r, fun _ ht => ht⟩
  | verified v =>
    cases hfind : r.findByIdentity? q.machineId v.identity with
    | some x =>
      simp only [seat, hfind, Except.ok.injEq] at h
      exact h ▸ ⟨.refl r, fun _ ht => ht⟩
    | none =>
      simp only [seat, hfind, Except.ok.injEq] at h
      exact h ▸ hopened q.machineId v.identity q.conferenceName v.properties

namespace Authority

variable (a : Authority η) (s : State η)

/-- The attachment that a section makes if it is entered in this state: of which connection, and
to the session of which token.  What counts is that the answer is a success. -/
def attachment? : Section → Option (PeerAddress × SessionToken)
  | .whole (.attach token peer) =>
    match (a.runWhole s (.attach token peer)).2 with
    | .session (some _) => some (peer, token)
    | _ => none
  | .commit q requester g =>
    match (a.enterCommit s q requester g).2 with
    | .answered (.join (.ok response)) => some (requester, response.sessionToken)
    | _ => none
  | _ => none

/-- An attachment turns its connection to the session of its token. -/
lemma rewired_attach (token : SessionToken) (peer : PeerAddress) :
    Rewired s.registry (a.runWhole s (.attach token peer)).1.registry
      (a.attachment? s (.whole (.attach token peer))) := by
  cases hget : s.registry.get? token with
  | none =>
    have hnone : a.attachment? s (.whole (.attach token peer)) = none := by
      simp only [attachment?, runWhole, Registry.attach_value, hget, Option.map_none]
    have hsame : (s.registry.attach s.now token peer).registry = s.registry := by
      simp only [attach, hget]
    have hrefl := Rewired.refl s.registry
    rw [hnone]
    simpa only [runWhole, afterOperation, State.note, hsame] using hrefl
  | some x =>
    have hsome : a.attachment? s (.whole (.attach token peer)) = some (peer, token) := by
      simp only [attachment?, runWhole, Registry.attach_value, hget, Option.map_some]
    rw [hsome]
    exact .ofAttach s.now peer hget

/-- A commit turns its connection to the session of the join. -/
lemma rewired_enterCommit (q : JoinRequest) (requester : PeerAddress) (g : Join.Grant) :
    Rewired s.registry (a.enterCommit s q requester g).1.registry
      (a.attachment? s (.commit q requester g)) := by
  cases hseat : Join.seat s.registry s.now (a.draw s.drawn) q g with
  | error e =>
    simp only [attachment?, a.enterCommit_of_seat_eq_error requester hseat]
    exact .refl s.registry
  | ok st =>
    obtain ⟨hkept, hlive⟩ := Join.rewired_seat hseat
    obtain ⟨x, hx⟩ := isLive_iff_get?.mp (Join.seated_of_seat_eq_ok hseat).isLive
    have htoken : x.token = st.token := (get?_eq_some hx).2
    simp only [attachment?, a.enterCommit_of_seat_eq_ok requester hseat hx]
    exact hkept.thenAttached hlive (.ofAttach s.now requester (htoken ▸ hx))

/-- **What a section does to the connections.** -/
lemma rewired_enter (pending : Section) :
    Rewired s.registry (a.enter s pending).1.registry (a.attachment? s pending) := by
  cases pending with
  | precheck q requester =>
    exact (Rewired.refl s.registry).thenUnchanged (a.enterPrecheck_unchanged s q requester)
  | commit q requester g => exact a.rewired_enterCommit s q requester g
  | whole call =>
    cases call with
    | logout token =>
      show Rewired s.registry (a.logout s token).1.registry none
      unfold logout
      split
      · exact .refl s.registry
      · exact .destroy s.registry token
    | conferenceEnded name =>
      have hpurge := Rewired.removeWhere s.registry .conferenceEnded (·.conferenceName = name)
      exact hpurge.thenUnchanged (purgeEnded_unchanged s name)
    | create machineId identity conferenceName properties => exact .ofOpened rfl rfl
    | attach token peer => exact a.rewired_attach s token peer
    | destroy token => exact .destroy s.registry token
    | purge name => exact .removeWhere s.registry _ _
    | sweep offset lifetime => exact .removeWhere s.registry _ _
    | setSink sink => exact .ofSublist (List.Sublist.refl _)
    | join | lookup | session | sessionText | sessionCount | findByIdentity | findByPeer
    | registryText => exact .refl s.registry

end Authority

/-! ## Moves -/

/-- **What one move does to the connections.** -/
theorem World.rewired_step (a : Authority η) (w : World η) (m : Move) :
    Rewired w.state.registry (w.step a m).state.registry
      ((m.entered? w).bind (a.attachment? w.state)) := by
  have hturn := w.turn a m
  generalize m.entered? w = entered, (w.step a m).state = s' at hturn ⊢
  cases hturn with
  | entered n registryFree pending =>
    exact (a.rewired_enter w.state pending).thenUnchanged
      (a.enterAndConsult_unchanged w.state pending registryFree)
  | swept sweeper _ _ rest =>
    exact (Rewired.removeWhere w.state.registry .expired _).thenUnchanged rest
  | purged hook channel name _ _ rest =>
    exact (Rewired.removeWhere w.state.registry .conferenceEnded _).thenUnchanged rest
  | waited | relisted => exact .refl w.state.registry
  | idle _ _ _ _ unchanged => exact (Rewired.refl w.state.registry).thenUnchanged unchanged

/-! ## Runs -/

namespace Run

variable {ρ : Run η} {o : SearchOrder} {k : Nat} {p : PeerAddress} {t : SessionToken}

/-- The attachment that move `k` makes, if it makes one: of which connection, and to the session of
which token. -/
def attachment? (ρ : Run η) (o : SearchOrder) (k : Nat) : Option (PeerAddress × SessionToken) := do
  let m ← ρ.moves[k]?
  let pending ← m.entered? (ρ.worldIn o k)
  ρ.authority.attachment? (ρ.worldIn o k).state pending

/-- Every move turns one connection to one session or none, which is known beforehand. -/
lemma rewired (ρ : Run η) (o : SearchOrder) (k : Nat) :
    Rewired (ρ.registryIn o k) (ρ.registryIn o (k + 1)) (ρ.attachment? o k) := by
  cases hm : ρ.moves[k]? with
  | none =>
    rw [registryIn, registryIn, worldIn_succ_of_none hm]
    simp only [attachment?, hm, Option.bind_eq_bind, Option.bind_none]
    exact (Rewired.refl _).arranged o (k + 1)
  | some m =>
    rw [registryIn, registryIn, worldIn_succ hm]
    simp only [attachment?, hm, Option.bind_eq_bind, Option.bind_some]
    exact (World.rewired_step ρ.authority (ρ.worldIn o k) m).arranged o (k + 1)

/-- Move `i` has attached the connection to the session, and up to the world that move `k` finds
nothing has come between them. -/
structure HoldsSince (ρ : Run η) (o : SearchOrder) (i k : Nat) (p : PeerAddress)
    (t : SessionToken) : Prop where
  before : i < k
  attaches : ρ.attachment? o i = some (p, t)
  /-- The connection has not been attached again. -/
  last_of_peer : ∀ j, i < j → j < k → ∀ t', ρ.attachment? o j ≠ some (p, t')
  /-- Nothing has been attached to the session again. -/
  last_to_token : ∀ j, i < j → j < k → ∀ p', ρ.attachment? o j ≠ some (p', t)
  /-- The session is still live. -/
  live : ∀ j, i < j → j ≤ k → (ρ.registryIn o j).IsLive t

/-- The connection was last attached to the session, the session has last been attached to by the
connection, and it is still live. -/
def Holds (ρ : Run η) (o : SearchOrder) (k : Nat) (p : PeerAddress) (t : SessionToken) : Prop :=
  ∃ i, ρ.HoldsSince o i k p t

/-- A connection that holds a session after a move has been attached to it by this move, or it held
the session before and no attachment came between. -/
lemma holds_succ : ρ.Holds o (k + 1) p t ↔ (ρ.registryIn o (k + 1)).IsLive t ∧
    (ρ.attachment? o k = some (p, t) ∨ ρ.Holds o k p t ∧
      (∀ t', ρ.attachment? o k ≠ some (p, t')) ∧ ∀ p', ρ.attachment? o k ≠ some (p', t)) := by
  constructor
  · rintro ⟨i, before, attaches, hpeer, htoken, live⟩
    refine ⟨live (k + 1) before (Nat.le_refl _), ?_⟩
    -- The attachment is made by move `k` itself, or earlier; then move `k` does not interfere.
    rcases Nat.lt_succ_iff_lt_or_eq.mp before with hik | rfl
    · refine .inr ⟨⟨i, hik, attaches, ?_, ?_, ?_⟩, ?_, ?_⟩
      · exact fun j hij hjk => hpeer j hij (Nat.lt_succ_of_lt hjk)
      · exact fun j hij hjk => htoken j hij (Nat.lt_succ_of_lt hjk)
      · exact fun j hij hjk => live j hij (Nat.le_succ_of_le hjk)
      · exact hpeer k hik (Nat.lt_succ_self k)
      · exact htoken k hik (Nat.lt_succ_self k)
    · exact .inl attaches
  · rintro ⟨hlive, hnow | ⟨⟨i, before, attaches, hpeer, htoken, live⟩, hpeer', htoken'⟩⟩
    · refine ⟨k, Nat.lt_succ_self k, hnow, ?_, ?_, ?_⟩
      · exact fun j hkj hjk => absurd hkj (by omega)
      · exact fun j hkj hjk => absurd hkj (by omega)
      · intro j hkj hjk
        obtain rfl : j = k + 1 := by omega
        exact hlive
    · refine ⟨i, Nat.lt_succ_of_lt before, attaches, ?_, ?_, ?_⟩
      · intro j hij hjk
        rcases Nat.lt_succ_iff_lt_or_eq.mp hjk with hjk | rfl
        · exact hpeer j hij hjk
        · exact hpeer'
      · intro j hij hjk
        rcases Nat.lt_succ_iff_lt_or_eq.mp hjk with hjk | rfl
        · exact htoken j hij hjk
        · exact htoken'
      · intro j hij hjk
        rcases Nat.le_succ_iff.mp hjk with hjk | rfl
        · exact live j hij hjk
        · exact hlive

/-- A connection holds one session. -/
lemma Holds.token_eq {t' : SessionToken} (h : ρ.Holds o k p t) (h' : ρ.Holds o k p t') :
    t = t' := by
  obtain ⟨i, hi⟩ := h
  obtain ⟨i', hi'⟩ := h'
  rcases Nat.lt_trichotomy i i' with hlt | rfl | hlt
  · exact absurd hi'.attaches (hi.last_of_peer i' hlt hi'.before t')
  · exact congrArg Prod.snd (Option.some.inj (hi.attaches.symm.trans hi'.attaches))
  · exact absurd hi.attaches (hi'.last_of_peer i hlt hi.before t)

/-- **A connection uses the session that it holds**, and no other one. -/
theorem uses_iff (h : ρ.start.registry.sessions = []) (o : SearchOrder) (k : Nat)
    (p : PeerAddress) (t : SessionToken) :
    (ρ.registryIn o k).Uses p t ↔ ρ.Holds o k p t := by
  induction k generalizing p t with
  | zero =>
    constructor
    · rintro ⟨x, hx, -⟩
      have hmem : x ∈ ρ.start.registry.sessions := Registry.mem_arranged.mp hx
      rw [h] at hmem
      exact absurd hmem (by simp)
    · rintro ⟨i, hi⟩
      exact absurd hi.before (Nat.not_lt_zero i)
  | succ k ih =>
    have hrewired := ρ.rewired o k
    rw [holds_succ]
    cases hmade : ρ.attachment? o k with
    | none =>
      rw [hmade] at hrewired
      cases hrewired with
      | kept uses =>
        rw [uses, ih]
        simp [and_comm]
    | some made =>
      rw [hmade] at hrewired
      cases hrewired with
      | attached p' t' live uses =>
        have hthis : some (p', t') = some (p, t) ↔ p = p' ∧ t = t' := by
          simp [eq_comm]
        have hpeer : (∀ u, some (p', t') ≠ some (p, u)) ↔ p ≠ p' := by
          simp [eq_comm]
        have htoken : (∀ q, some (p', t') ≠ some (q, t)) ↔ t ≠ t' := by
          simp [eq_comm]
        rw [uses, ih, hthis, hpeer, htoken]
        -- Either this attachment is the last one of both, or it concerns neither.
        constructor
        · rintro (⟨rfl, rfl⟩ | ⟨hp, ht, hholds⟩)
          · exact ⟨live, .inl ⟨rfl, rfl⟩⟩
          · have huses := (uses p t).mpr (.inr ⟨hp, ht, (ih p t).mpr hholds⟩)
            exact ⟨huses.isLive, .inr ⟨hholds, hp, ht⟩⟩
        · rintro ⟨-, ⟨rfl, rfl⟩ | ⟨hholds, hp, ht⟩⟩
          · exact .inl ⟨rfl, rfl⟩
          · exact .inr ⟨hp, ht, hholds⟩

/-! ## Searching -/

/-- What the searches of move `k` come to. -/
structure ExactLookup (ρ : Run η) (o : SearchOrder) (k : Nat) : Prop where
  /-- In the store that has been asked for the same, every session is under its own token. -/
  keyed : (ρ.storeIn o k).Keyed
  /-- The store holds the sessions of the registry. -/
  values : (ρ.storeIn o k).values = (ρ.registryIn o k).sessions
  /-- What is under a token in the store is what the registry has for it. -/
  under : ∀ t, (ρ.storeIn o k).get? t = (ρ.registryIn o k).get? t
  /-- Searching the store finds what searching the registry finds. -/
  searched : (∀ p, (ρ.storeIn o k).findByPeer? p = (ρ.registryIn o k).findByPeer? p) ∧
    ∀ m i, (ρ.storeIn o k).findByIdentity? m i = (ρ.registryIn o k).findByIdentity? m i
  /-- Whatever is asked next, the store has the same result and the same notices as the registry,
  and stays the store of the registry. -/
  performed : ∀ op, (ρ.storeIn o k).perform op = ((ρ.registryIn o k).perform op).toStore
  /-- No two sessions have the same connection. -/
  exclusive : ∀ x ∈ (ρ.registryIn o k).sessions, ∀ y ∈ (ρ.registryIn o k).sessions, ∀ p,
    x.peer = some p → y.peer = some p → x = y
  /-- What is found for a connection is the session that it holds. -/
  found : ∀ p t, p.isEmpty = false →
    ((∃ x, (ρ.registryIn o k).get? t = some x ∧ (ρ.registryIn o k).findByPeer? p = some x) ↔
      ρ.Holds o k p t)
  /-- Whoever asks for its identity is told it. -/
  identified : ∀ p t, p.isEmpty = false → ρ.Holds o k p t →
    ∃ x, (ρ.registryIn o k).get? t = some x ∧
      (ρ.authority.runWhole (ρ.worldIn o k).state (.lookup p)).2 = .identity (some x.identity)
  /-- For a connection that holds no session nothing is found. -/
  unfound : ∀ p, p.isEmpty = false → (∀ t, ¬ ρ.Holds o k p t) →
    (ρ.registryIn o k).findByPeer? p = none ∧
      (ρ.authority.runWhole (ρ.worldIn o k).state (.lookup p)).2 = .identity none

/-- The identity behind a connection is that of the session that is found for it. -/
lemma runWhole_lookup (ρ : Run η) (o : SearchOrder) (k : Nat) (p : PeerAddress) :
    (ρ.authority.runWhole (ρ.worldIn o k).state (.lookup p)).2 =
      .identity (((ρ.registryIn o k).findByPeer? p).map (·.identity)) := rfl

/-- **A connection is known by what it was attached to last.** -/
theorem exactLookup (h : ρ.start.registry.sessions = []) (o : SearchOrder) (k : Nat) :
    ρ.ExactLookup o k := by
  have huses := uses_iff h o k
  have hone : ∀ p t t', (ρ.registryIn o k).Uses p t → (ρ.registryIn o k).Uses p t' → t = t' :=
    fun p t t' ht ht' => ((huses p t).mp ht).token_eq ((huses p t').mp ht')
  have hfound : ∀ p t, p.isEmpty = false →
      ((∃ x, (ρ.registryIn o k).get? t = some x ∧ (ρ.registryIn o k).findByPeer? p = some x) ↔
        ρ.Holds o k p t) := fun p t hp =>
    (Registry.exists_findByPeer?_iff hp (hone p)).trans (huses p t)
  have hstore := storeIn_eq h o k
  constructor
  case keyed => exact hstore ▸ (ρ.registryIn o k).keyed_toStore
  case values => rw [hstore, Registry.values_toStore]
  case under => exact fun t => by rw [hstore, Registry.get?_toStore]
  case searched =>
    rw [hstore]
    exact ⟨Registry.findByPeer?_toStore _, Registry.findByIdentity?_toStore _⟩
  case performed => exact fun op => by rw [hstore, Registry.perform_toStore]
  case exclusive =>
    intro x hx y hy p hxp hyp
    exact Registry.session_eq hx hy (hone p _ _ ⟨x, hx, rfl, hxp⟩ ⟨y, hy, rfl, hyp⟩)
  case found => exact hfound
  case identified =>
    intro p t hp hholds
    obtain ⟨x, hget, hfind⟩ := (hfound p t hp).mpr hholds
    exact ⟨x, hget, by rw [runWhole_lookup, hfind, Option.map_some]⟩
  case unfound =>
    intro p hp hnot
    have hnone : (ρ.registryIn o k).findByPeer? p = none := by
      cases hfind : (ρ.registryIn o k).findByPeer? p with
      | none => rfl
      | some x =>
        obtain ⟨hx, -⟩ := Registry.findByPeer?_eq_some hfind
        have hget := Registry.get?_eq_some_iff.mpr ⟨hx, rfl⟩
        exact absurd ((hfound p x.token hp).mp ⟨x, hget, hfind⟩) (hnot x.token)
    exact ⟨hnone, by rw [runWhole_lookup, hnone, Option.map_none]⟩

/-- A connection moves from one session to another, and a second one takes the first session. -/
def moved : Run Unit where
  authority := .sample .trustToken
  start := .initial 0 none ()
  moves := [.arrive 0 (.create "desk" "ann" "room" .empty), .enter 0 true,
    .arrive 1 (.create "lamp" "bob" "room" .empty), .enter 1 true,
    .arrive 2 (.attach (.ofNumber 0) ⟨"left"⟩), .enter 2 true,
    .arrive 3 (.attach (.ofNumber 1) ⟨"left"⟩), .enter 3 true,
    .arrive 4 (.attach (.ofNumber 0) ⟨"right"⟩), .enter 4 true]

/-- After its move the first connection has the second session, and the other one the first. -/
theorem moved_exactLookup :
    moved.start.registry.sessions = [] ∧ moved.ExactLookup .alternating 10 ∧
      moved.Holds .alternating 10 ⟨"left"⟩ (.ofNumber 1) ∧
      moved.Holds .alternating 10 ⟨"right"⟩ (.ofNumber 0) ∧
      (moved.storeIn .alternating 10).keys = [.ofNumber 1, .ofNumber 0] := by
  have hexact : moved.ExactLookup .alternating 10 := exactLookup rfl .alternating 10
  refine ⟨rfl, hexact, (hexact.found _ _ (by decide)).mp ?_, (hexact.found _ _ (by decide)).mp ?_,
    by decide⟩
  · exact ⟨⟨.ofNumber 1, "lamp", "bob", "room", some ⟨"left"⟩, 0, 0⟩, by decide, by decide⟩
  · exact ⟨⟨.ofNumber 0, "desk", "ann", "room", some ⟨"right"⟩, 0, 0⟩, by decide, by decide⟩

end Run

end Admittance
