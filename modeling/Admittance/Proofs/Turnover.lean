import Admittance.Proofs.Connection
import Admittance.Proofs.Token

/-!
# Which sessions follow on which

A move takes some sessions out of the registry, may put one in, and may let a connection turn to
one.  `Turnover` says that this is all: whatever a move does, the sessions behind it are those that
it spares and the one that it opens, changed by the attachment that it makes and by nothing else.
`Authority.opening?` says beforehand which session a section opens, as `Authority.attachment?` does
of its attachment.

So a session keeps its binding from one move to the next, and the time of its last use as well
unless a connection is attached to it (`Turnover.exists_successor`).  The clock never goes back
(`Run.nowIn_le`).
-/

namespace Admittance

variable {η : Type}

open Registry

/-! ## One change of the sessions -/

/-- A session after an attachment, if one is made. -/
def Session.after (now : Instant) : Option (PeerAddress × SessionToken) → Session → Session
  | none, x => x
  | some (p, t), x => reattached now t p x

/-- The session that an attachment is made to. -/
def attachedTo (made : Option (PeerAddress × SessionToken)) : Option SessionToken :=
  made.map Prod.snd

/-- Without an attachment every session stays as it is. -/
lemma Session.map_after_none (now : Instant) (xs : List Session) :
    xs.map (Session.after now none) = xs :=
  List.map_id'' (fun _ => rfl) xs

/-- An attachment keeps the binding of every session. -/
lemma Session.binding_after (now : Instant) (made : Option (PeerAddress × SessionToken))
    (x : Session) : (x.after now made).binding = x.binding := by
  cases made with
  | none => rfl
  | some made => exact binding_reattached now made.2 made.1 x

/-- Only an attachment to the session itself counts as a use of it. -/
lemma Session.lastActivity_after (now : Instant) (made : Option (PeerAddress × SessionToken))
    (x : Session) : (x.after now made).lastActivity =
      if attachedTo made = some x.token then now else x.lastActivity := by
  cases made with
  | none => rfl
  | some made =>
    obtain ⟨p, t⟩ := made
    have htoken : attachedTo (some (p, t)) = some x.token ↔ x.token = t := by
      simp [attachedTo, eq_comm]
    simp only [after, reattached, htoken]
    split
    · rfl
    · split <;> rfl

/-- What a move may do to the sessions, with the session that it opens and the attachment that it
makes. -/
structure Turnover (now : Instant) (opened : Option Session)
    (made : Option (PeerAddress × SessionToken)) (r r' : Registry) : Prop where
  /-- The sessions behind the move are the spared ones and the one opened, after the attachment. -/
  sessions : ∃ spared : List Session, spared.Sublist r.sessions ∧
    r'.sessions.Perm ((spared ++ opened.toList).map (Session.after now made))
  /-- A session is opened under a token that is not in use, and nobody has used it yet. -/
  opens : ∀ x, opened = some x → ¬ r.IsLive x.token ∧ x.createdAt = now ∧ x.lastActivity = now

namespace Turnover

variable {now : Instant} {opened : Option Session} {made : Option (PeerAddress × SessionToken)}
  {r r' r'' : Registry}

/-- Sessions that are spared stay as they are. -/
lemma ofSublist (h : r'.sessions.Sublist r.sessions) : Turnover now none none r r' := by
  refine ⟨⟨r'.sessions, h, ?_⟩, by simp⟩
  rw [Session.map_after_none, Option.toList_none, List.append_nil]

/-- Where nothing happens, the same sessions follow. -/
lemma refl (r : Registry) : Turnover now none none r r := ofSublist (List.Sublist.refl _)

/-- One session is opened. -/
lemma ofOpened {x : Session} (h : r'.sessions = r.sessions ++ [x]) (hfresh : ¬ r.IsLive x.token)
    (hcreated : x.createdAt = now) (hused : x.lastActivity = now) :
    Turnover now (some x) none r r' := by
  refine ⟨⟨r.sessions, List.Sublist.refl _, ?_⟩, ?_⟩
  · rw [Session.map_after_none, Option.toList_some, h]
  · rintro y ⟨⟩
    exact ⟨hfresh, hcreated, hused⟩

/-- An attachment may follow. -/
lemma thenAttached (h : Turnover now opened none r r') (p : PeerAddress) (t : SessionToken) :
    Turnover now opened (some (p, t)) r (r'.reattach now t p) := by
  obtain ⟨spared, hsublist, hperm⟩ := h.sessions
  rw [Session.map_after_none] at hperm
  exact ⟨⟨spared, hsublist, hperm.map _⟩, h.opens⟩

/-- What changes nothing may follow. -/
lemma thenUnchanged {s s' : State η} (h : Turnover now opened made r s.registry)
    (h' : Unchanged s s') : Turnover now opened made r s'.registry :=
  h'.registry ▸ h

/-- The order in which the sessions come up is no matter. -/
lemma arranged (h : Turnover now opened made r r') (o : SearchOrder) (k : Nat) :
    Turnover now opened made r (r'.arranged o k) := by
  obtain ⟨spared, hsublist, hperm⟩ := h.sessions
  exact ⟨⟨spared, hsublist, (o.perm k r'.sessions).trans hperm⟩, h.opens⟩

/-! ### Single sessions -/

/-- Where a session comes from. -/
lemma origin (h : Turnover now opened made r r') {x : Session} (hx : x ∈ r'.sessions) :
    (∃ y ∈ r.sessions, x.binding = y.binding ∧
      x.lastActivity = if attachedTo made = some y.token then now else y.lastActivity) ∨
    ∃ y, opened = some y ∧ x.binding = y.binding ∧ x.lastActivity = now := by
  obtain ⟨spared, hsublist, hperm⟩ := h.sessions
  obtain ⟨y, hy, rfl⟩ := List.mem_map.mp (hperm.mem_iff.mp hx)
  rcases List.mem_append.mp hy with hy | hy
  · exact .inl ⟨y, hsublist.subset hy, y.binding_after now made, y.lastActivity_after now made⟩
  · have hopened : opened = some y := by simpa using hy
    obtain ⟨-, -, hused⟩ := h.opens y hopened
    refine .inr ⟨y, hopened, y.binding_after now made, ?_⟩
    rw [y.lastActivity_after now made, hused, ite_self]

/-- **A session that is spared is the same as before**, and only an attachment to it counts as a
use. -/
lemma exists_successor (h : Turnover now opened made r r') {x : Session} (hx : x ∈ r.sessions)
    (hlive : r'.IsLive x.token) :
    ∃ x' ∈ r'.sessions, x'.binding = x.binding ∧
      x'.lastActivity = if attachedTo made = some x.token then now else x.lastActivity := by
  obtain ⟨x', hx'⟩ := isLive_iff_get?.mp hlive
  obtain ⟨hmem, htoken⟩ := get?_eq_some hx'
  refine ⟨x', hmem, ?_⟩
  rcases h.origin hmem with ⟨y, hy, hbinding, hused⟩ | ⟨y, hopened, hbinding, -⟩
  · have hxy : y = x := session_eq hy hx ((congrArg Binding.token hbinding).symm.trans htoken)
    exact hxy ▸ ⟨hbinding, hused⟩
  · have hsame : y.token = x.token := (congrArg Binding.token hbinding).symm.trans htoken
    have hlive : r.IsLive x.token := isLive_of_mem (binding_mem hx)
    exact absurd hlive (hsame ▸ (h.opens y hopened).1)

end Turnover

/-! ## Sections -/

/-- What leaves the state unchanged leaves the clock. -/
lemma Unchanged.now {s s' : State η} (h : Unchanged s s') : s'.now = s.now := by
  obtain ⟨notices, rfl, -⟩ := h
  rfl

namespace Authority

variable (a : Authority η) (s : State η)

/-- The session that a section opens if it is entered in this state. -/
def opening? : Section → Option Session
  | .whole (.create machineId identity conferenceName _) =>
    some (.opened (a.nextToken s) machineId identity conferenceName s.now)
  | .commit q _ (.verified v) =>
    match s.registry.findByIdentity? q.machineId v.identity with
    | some _ => none
    | none => some (.opened (a.nextToken s) q.machineId v.identity q.conferenceName s.now)
  | _ => none

/-- A session that is opened comes to those that are there. -/
lemma turnover_create (machineId identity conferenceName : String) (properties : TextMap) :
    Turnover s.now (some (.opened (a.nextToken s) machineId identity conferenceName s.now)) none
      s.registry (s.registry.create s.now (a.draw s.drawn) machineId identity conferenceName
        properties).registry :=
  .ofOpened rfl (a.not_isLive_nextToken s) rfl rfl

/-- An attachment changes the session of its token and those of its connection. -/
lemma turnover_attach (token : SessionToken) (peer : PeerAddress) :
    Turnover s.now none (a.attachment? s (.whole (.attach token peer))) s.registry
      (a.runWhole s (.attach token peer)).1.registry := by
  cases hget : s.registry.get? token with
  | none =>
    have hnone : a.attachment? s (.whole (.attach token peer)) = none := by
      simp only [attachment?, runWhole, Registry.attach_value, hget, Option.map_none]
    have hsame : (s.registry.attach s.now token peer).registry = s.registry := by
      simp only [attach, hget]
    have hrefl : Turnover s.now none none s.registry s.registry := .refl s.registry
    rw [hnone]
    simpa only [runWhole, afterOperation, State.note, hsame] using hrefl
  | some x =>
    have hsome : a.attachment? s (.whole (.attach token peer)) = some (peer, token) := by
      simp only [attachment?, runWhole, Registry.attach_value, hget, Option.map_some]
    have hrefl : Turnover s.now none none s.registry s.registry := .refl s.registry
    have hreattach := hrefl.thenAttached peer token
    rw [hsome]
    simpa only [runWhole, afterOperation, State.note, attach, hget] using hreattach

/-- Coming by a session opens one or none. -/
lemma turnover_seat (q : JoinRequest) (requester : PeerAddress) {g : Join.Grant} {st : Join.Seat}
    (h : Join.seat s.registry s.now (a.draw s.drawn) q g = .ok st) :
    Turnover s.now (a.opening? s (.commit q requester g)) none s.registry st.registry := by
  cases g with
  | reuse t =>
    cases hget : s.registry.get? t with
    | none => simp [Join.seat, hget] at h
    | some x =>
      simp only [Join.seat, hget, Except.ok.injEq] at h
      exact h ▸ .refl s.registry
  | verified v =>
    cases hfind : s.registry.findByIdentity? q.machineId v.identity with
    | some x =>
      simp only [Join.seat, hfind, Except.ok.injEq] at h
      simp only [opening?, hfind]
      exact h ▸ .refl s.registry
    | none =>
      simp only [Join.seat, hfind, Except.ok.injEq] at h
      simp only [opening?, hfind]
      exact h ▸ a.turnover_create s q.machineId v.identity q.conferenceName v.properties

/-- A commit opens the session that is known beforehand, or none, and makes one attachment. -/
lemma turnover_enterCommit (q : JoinRequest) (requester : PeerAddress) (g : Join.Grant) :
    Turnover s.now (a.opening? s (.commit q requester g)) (a.attachment? s (.commit q requester g))
      s.registry (a.enterCommit s q requester g).1.registry := by
  cases hseat : Join.seat s.registry s.now (a.draw s.drawn) q g with
  | error e =>
    obtain ⟨t, rfl, -, -⟩ := Join.seat_eq_error hseat
    simp only [attachment?, opening?, a.enterCommit_of_seat_eq_error requester hseat]
    exact .refl s.registry
  | ok st =>
    obtain ⟨x, hx⟩ := isLive_iff_get?.mp (Join.seated_of_seat_eq_ok hseat).isLive
    have htoken : x.token = st.token := (get?_eq_some hx).2
    have hattached := (a.turnover_seat s q requester hseat).thenAttached requester st.token
    have hregistry : (a.attachAndAnnounce (takeSeat s st) requester x).registry =
        st.registry.reattach s.now st.token requester := by
      show (st.registry.attach s.now x.token requester).registry = _
      rw [htoken]
      simp only [attach, hx]
    simp only [attachment?, a.enterCommit_of_seat_eq_ok requester hseat hx, htoken, hregistry]
    exact hattached

/-- **What a section does to the sessions.** -/
lemma turnover_enter (pending : Section) :
    Turnover s.now (a.opening? s pending) (a.attachment? s pending) s.registry
      (a.enter s pending).1.registry := by
  cases pending with
  | precheck q requester =>
    exact (Turnover.refl s.registry).thenUnchanged (a.enterPrecheck_unchanged s q requester)
  | commit q requester g => exact a.turnover_enterCommit s q requester g
  | whole call =>
    cases call with
    | logout token =>
      show Turnover s.now none none s.registry (a.logout s token).1.registry
      unfold logout
      split
      · exact .refl s.registry
      · exact .ofSublist (s.registry.sessions_destroy_sublist token)
    | conferenceEnded name =>
      have hpurge : Turnover s.now none none s.registry (s.registry.purge name).registry :=
        .ofSublist (sessions_removeWhere_sublist ..)
      exact hpurge.thenUnchanged (purgeEnded_unchanged s name)
    | create machineId identity conferenceName properties =>
      exact a.turnover_create s machineId identity conferenceName properties
    | attach token peer => exact a.turnover_attach s token peer
    | destroy token => exact .ofSublist (s.registry.sessions_destroy_sublist token)
    | purge name => exact .ofSublist (sessions_removeWhere_sublist ..)
    | sweep offset lifetime => exact .ofSublist (sessions_removeWhere_sublist ..)
    | setSink sink => exact .ofSublist (List.Sublist.refl _)
    | join | lookup | session | sessionText | sessionCount | findByIdentity | findByPeer
    | registryText => exact .refl s.registry

/-! ### The clock -/

/-- No section moves the clock. -/
lemma now_enter (pending : Section) : (a.enter s pending).1.now = s.now := by
  cases pending with
  | precheck q requester => exact (a.enterPrecheck_unchanged s q requester).now
  | commit q requester g =>
    show (a.enterCommit s q requester g).1.now = s.now
    unfold enterCommit enterCommitBy
    dsimp only
    split <;> rfl
  | whole call =>
    cases call with
    | logout token =>
      show (a.logout s token).1.now = s.now
      unfold logout
      split <;> rfl
    | conferenceEnded name => exact (purgeEnded_unchanged s name).now
    | create | attach | destroy | purge | sweep | setSink | join | lookup | session | sessionText
    | sessionCount | findByIdentity | findByPeer | registryText => rfl

end Authority

/-! ## Moves -/

/-- **What one move does to the sessions.** -/
theorem World.turnover_step (a : Authority η) (w : World η) (m : Move) :
    Turnover w.state.now ((m.entered? w).bind (a.opening? w.state))
      ((m.entered? w).bind (a.attachment? w.state)) w.state.registry
      (w.step a m).state.registry := by
  have hturn := w.turn a m
  generalize m.entered? w = entered, (w.step a m).state = s' at hturn ⊢
  cases hturn with
  | entered n registryFree pending =>
    exact (a.turnover_enter w.state pending).thenUnchanged
      (a.enterAndConsult_unchanged w.state pending registryFree)
  | swept sweeper _ _ rest =>
    have hsweep : Turnover w.state.now none none w.state.registry
        (w.state.registry.sweep w.state.now sweeper.lifetime).registry :=
      .ofSublist (sessions_removeWhere_sublist ..)
    exact hsweep.thenUnchanged rest
  | purged hook channel name _ _ rest =>
    have hpurge : Turnover w.state.now none none w.state.registry
        (w.state.registry.purge name).registry :=
      .ofSublist (sessions_removeWhere_sublist ..)
    exact hpurge.thenUnchanged rest
  | waited | relisted => exact .refl w.state.registry
  | idle _ _ _ _ unchanged => exact (Turnover.refl w.state.registry).thenUnchanged unchanged

/-- The clock never goes back. -/
lemma World.now_le_step (a : Authority η) (w : World η) (m : Move) :
    w.state.now ≤ (w.step a m).state.now := by
  have hturn := w.turn a m
  generalize m.entered? w = entered, (w.step a m).state = s' at hturn
  cases hturn with
  | entered n registryFree pending =>
    have hsame := (a.enterAndConsult_unchanged w.state pending registryFree).now
    exact Int.le_of_eq (hsame.trans (a.now_enter w.state pending)).symm
  | swept _ _ _ rest => exact Int.le_of_eq rest.now.symm
  | purged _ _ _ _ _ rest => exact Int.le_of_eq rest.now.symm
  | waited nanos => exact Int.le_add_of_nonneg_right (Int.natCast_nonneg nanos)
  | relisted => exact Int.le_refl _
  | idle _ _ _ _ unchanged => exact Int.le_of_eq unchanged.now.symm

/-! ## Runs -/

namespace Run

variable (ρ : Run η) (o : SearchOrder)

/-- The time of move `k`. -/
def nowIn (k : Nat) : Instant := (ρ.worldIn o k).state.now

/-- The session that move `k` opens, if it opens one. -/
def opening? (k : Nat) : Option Session := do
  let m ← ρ.moves[k]?
  let pending ← m.entered? (ρ.worldIn o k)
  ρ.authority.opening? (ρ.worldIn o k).state pending

/-- The token of the session that a connection is attached to by move `k`. -/
def attachedTo? (k : Nat) : Option SessionToken := attachedTo (ρ.attachment? o k)

/-- Every move opens one session at most and makes one attachment at most, and both are known
beforehand. -/
lemma turnover (k : Nat) :
    Turnover (ρ.nowIn o k) (ρ.opening? o k) (ρ.attachment? o k) (ρ.registryIn o k)
      (ρ.registryIn o (k + 1)) := by
  cases hm : ρ.moves[k]? with
  | none =>
    rw [registryIn, registryIn, worldIn_succ_of_none hm]
    simp only [attachment?, opening?, hm, Option.bind_eq_bind, Option.bind_none]
    exact (Turnover.refl _).arranged o (k + 1)
  | some m =>
    rw [registryIn, registryIn, worldIn_succ hm]
    simp only [attachment?, opening?, hm, Option.bind_eq_bind, Option.bind_some]
    exact (World.turnover_step ρ.authority (ρ.worldIn o k) m).arranged o (k + 1)

/-- A move does not turn the clock back. -/
lemma nowIn_le_succ (k : Nat) : ρ.nowIn o k ≤ ρ.nowIn o (k + 1) := by
  cases hm : ρ.moves[k]? with
  | none =>
    rw [nowIn, nowIn, worldIn_succ_of_none hm]
    exact Int.le_refl _
  | some m =>
    rw [nowIn, nowIn, worldIn_succ hm]
    exact World.now_le_step ρ.authority (ρ.worldIn o k) m

/-- The clock never goes back. -/
lemma nowIn_le {i k : Nat} (hik : i ≤ k) : ρ.nowIn o i ≤ ρ.nowIn o k := by
  induction k, hik using Nat.le_induction with
  | base => exact Int.le_refl _
  | succ k _ ih => exact Int.le_trans ih (ρ.nowIn_le_succ o k)

end Run

end Admittance
