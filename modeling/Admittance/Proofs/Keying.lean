import Admittance.Store
import Admittance.Proofs.Order
import Admittance.Proofs.Turn

/-!
# Every session under its own token

A `Store` does not say of itself that a session is under its own token; its operations see to it.
`Registry.toStore` is the store in which the sessions of a registry are, each under its token, and
every operation of that store is the operation of the registry: it finds the same, reports the same,
and leaves the store of the registry that is left (`Registry.perform_toStore`).  So a store that
starts empty and of which the same is asked as of a registry stays the store of that registry,
whatever is asked, and in whatever order its entries come up (`Run.storeIn_eq`).  In such a store
every key is the token of its session (`Registry.keyed_toStore`).
-/

namespace Admittance

variable {η : Type}

/-! ## The store of a registry -/

/-- Every session is under its own token. -/
def Store.Keyed (m : Store) : Prop := ∀ e ∈ m.entries, e.1 = e.2.token

/-- A session under its own token. -/
def Session.keyed (s : Session) : SessionToken × Session := (s.token, s)

namespace Registry

/-- The store in which the sessions of a registry are, each under its own token. -/
def toStore (r : Registry) : Store where
  entries := r.sessions.map Session.keyed
  sink := r.sink
  keys_nodup := by
    rw [List.map_map]
    exact r.tokens_nodup

/-- The store that an operation on a registry leaves behind, with the same result and the same
notices. -/
def Outcome.toStore {α : Type} (o : Outcome α) : Store.Outcome α :=
  ⟨o.registry.toStore, o.value, o.notices⟩

variable (r : Registry)

/-- A registry has its sessions under their tokens. -/
lemma keyed_toStore : r.toStore.Keyed := by
  intro e he
  obtain ⟨s, -, rfl⟩ := List.mem_map.mp he
  rfl

/-- The values of the map are the sessions. -/
@[simp] lemma values_toStore : r.toStore.values = r.sessions := by
  rw [Store.values, toStore, List.map_map]
  exact List.map_id _

/-- The keys of the map are the tokens of the sessions. -/
@[simp] lemma keys_toStore : r.toStore.keys = r.sessions.map Session.token := by
  rw [Store.keys, toStore, List.map_map]
  rfl

/-- A token is among the keys if it has a session. -/
lemma mem_keys_toStore {t : SessionToken} : t ∈ r.toStore.keys ↔ r.IsLive t := by
  rw [keys_toStore, IsLive, tokens_eq_map]

/-! ## Searching -/

/-- What is under a token is what has this token. -/
@[simp] lemma get?_toStore (t : SessionToken) : r.toStore.get? t = r.get? t := by
  rw [Store.get?, toStore, List.find?_map, Option.map_map]
  exact congrFun Option.map_id _

/-- A connection is searched among the values. -/
@[simp] lemma findByPeer?_toStore (peer : PeerAddress) :
    r.toStore.findByPeer? peer = r.findByPeer? peer := by
  rw [Store.findByPeer?, values_toStore]
  rfl

/-- A device is searched among the values. -/
@[simp] lemma findByIdentity?_toStore (machineId identity : String) :
    r.toStore.findByIdentity? machineId identity = r.findByIdentity? machineId identity := by
  rw [Store.findByIdentity?, values_toStore, findByIdentity?, ofIdentity]
  split
  · rfl
  · rw [List.head?_filter]

/-! ## Changing -/

/-- Sessions that keep their tokens stay under them. -/
lemma update_toStore {change : SessionToken → Session → Session} {r' : Registry}
    (hsink : r'.sink = r.sink) (hsessions : r'.sessions = r.sessions.map fun s => change s.token s)
    (htoken : ∀ s, (change s.token s).token = s.token) : r.toStore.update change = r'.toStore := by
  ext1
  · show (r.sessions.map Session.keyed).map _ = r'.sessions.map Session.keyed
    rw [hsessions, List.map_map, List.map_map]
    refine List.map_congr_left fun s _ => ?_
    exact congrArg (fun t => (t, change s.token s)) (htoken s).symm
  · exact hsink.symm

/-- What is under a token is taken out together with the session of this token. -/
lemma without_toStore {t : SessionToken} {r' : Registry} (hsink : r'.sink = r.sink)
    (hsessions : r'.sessions = r.sessions.filter (·.token ≠ t)) :
    r.toStore.without t = r'.toStore := by
  ext1
  · show (r.sessions.map Session.keyed).filter _ = r'.sessions.map Session.keyed
    rw [hsessions, List.filter_map]
    rfl
  · exact hsink.symm

/-- A session whose token is new is put into the store under it. -/
lemma insertIfNew_toStore {s : Session} (h : s.token ∉ r.sessions.map Session.token) :
    r.toStore.insertIfNew s.token s = ((r.add s h).toStore, s) := by
  have hnew : s.token ∉ r.toStore.keys := by rwa [keys_toStore]
  rw [Store.insertIfNew, dif_neg hnew]
  refine congrArg (·, s) (Store.ext ?_ rfl)
  show r.sessions.map Session.keyed ++ [s].map Session.keyed = (r.sessions ++ [s]).map Session.keyed
  rw [List.map_append]

/-- A session is opened in the store as in the registry. -/
lemma create_toStore (now : Instant) (drawing : Drawing)
    (machineId identity conferenceName : String) (properties : TextMap) :
    r.toStore.create now drawing machineId identity conferenceName properties =
      (r.create now drawing machineId identity conferenceName properties).toStore := by
  let s := Session.opened (r.freshToken drawing) machineId identity conferenceName now
  have hinserted : r.toStore.insertIfNew (drawing.result (r.sessions.map Session.token)) s = _ :=
    r.insertIfNew_toStore (s := s) (drawing.result_not_mem _)
  simp only [Store.create, keys_toStore]
  exact congrArg (fun inserted : Store × Session => (⟨inserted.1, inserted.2,
    (r.creationRecords drawing machineId identity conferenceName).map .record ++
      r.report (.created s.token identity machineId properties)⟩ : Store.Outcome Session)) hinserted

/-- The registry in which every session that `peer` uses has lost it, but for the one of a token. -/
def freed (token : SessionToken) (peer : PeerAddress) : Registry where
  sessions := r.sessions.map fun s => if isRival token peer s then s.detached else s
  sink := r.sink
  tokens_nodup := by
    rw [List.map_map]
    refine (List.map_congr_left fun s _ => ?_) ▸ r.tokens_nodup
    show s.token = (if isRival token peer s then s.detached else s).token
    split <;> rfl

/-- The session of the token itself is no rival. -/
lemma get?_freed (t : SessionToken) (peer : PeerAddress) : (r.freed t peer).get? t = r.get? t := by
  show (r.sessions.map _).find? (·.token = t) = r.get? t
  rw [List.find?_map]
  have hsame : (fun s : Session => decide (s.token = t)) ∘
      (fun s : Session => if isRival t peer s then s.detached else s) =
        fun s => decide (s.token = t) := by
    funext s
    show decide ((if isRival t peer s then s.detached else s).token = t) = decide (s.token = t)
    split <;> rfl
  rw [hsame]
  show (r.get? t).map _ = r.get? t
  cases hget : r.get? t with
  | none => rfl
  | some x =>
    have hself : isRival t peer x = false := by simp [isRival, (get?_eq_some hget).2]
    rw [Option.map_some, hself]
    rfl

/-- The connection is taken from the sessions of the store that have to lose it. -/
lemma free_toStore (t : SessionToken) (peer : PeerAddress) :
    r.toStore.free t peer = (r.freed t peer).toStore := by
  refine r.update_toStore rfl rfl fun s => ?_
  split <;> rfl

/-- When they have lost it, the session under the token gets it. -/
lemma update_freed_toStore (now : Instant) (t : SessionToken) (peer : PeerAddress) :
    (r.freed t peer).toStore.update (fun key s => if key = t then s.usedBy peer now else s) =
      (r.reattach now t peer).toStore := by
  refine (r.freed t peer).update_toStore rfl ?_ fun s => ?_
  · show r.sessions.map _ = (r.sessions.map _).map _
    rw [List.map_map]
    refine List.map_congr_left fun s _ => ?_
    show reattached now t peer s =
      if (if isRival t peer s then s.detached else s).token = t then _ else _
    by_cases htoken : s.token = t
    · simp [reattached, isRival, htoken]
    · by_cases hpeer : s.peer = some peer
      · simp [reattached, isRival, htoken, hpeer, Session.detached]
      · simp [reattached, isRival, htoken, hpeer]
  · split <;> rfl

/-- A connection turns to a session in the store as in the registry. -/
lemma attach_toStore (now : Instant) (t : SessionToken) (peer : PeerAddress) :
    r.toStore.attach now t peer = (r.attach now t peer).toStore := by
  cases hget : r.get? t with
  | none =>
    have habsent : t ∉ r.toStore.keys := fun h =>
      get?_eq_none_iff.mp hget (r.mem_keys_toStore.mp h)
    simp only [Store.attach, if_neg habsent, attach, hget]
    rfl
  | some x =>
    have hlive : t ∈ r.toStore.keys := r.mem_keys_toStore.mpr (isLive_iff_get?.mpr ⟨x, hget⟩)
    simp only [Store.attach, if_pos hlive, free_toStore, update_freed_toStore, get?_toStore,
      get?_freed, hget, attach, values_toStore]
    rfl

/-- What is taken out under the token of a session is this session. -/
lemma without_toStore_of_mem {x : Session} (hx : x ∈ r.sessions) :
    r.toStore.without x.token =
      (r.restrict (r.sessions.erase x) List.erase_sublist).toStore := by
  refine r.without_toStore rfl ?_
  show r.sessions.erase x = _
  rw [(r.tokens_nodup.of_map _).erase_eq_filter]
  refine List.filter_congr fun y hy => ?_
  have hsame : y.token = x.token ↔ y = x := ⟨session_eq hy hx, congrArg Session.token⟩
  by_cases heq : y = x <;> simp [hsame, heq]

/-- A session is removed from the store as from the registry. -/
lemma destroy_toStore (t : SessionToken) : r.toStore.destroy t = (r.destroy t).toStore := by
  cases hget : r.get? t with
  | none =>
    simp only [Store.destroy, get?_toStore, hget, destroy]
    rfl
  | some x =>
    have hwithout : r.toStore.without t =
        (r.restrict (r.sessions.filter (·.token ≠ t)) List.filter_sublist).toStore :=
      r.without_toStore rfl rfl
    simp only [Store.destroy, get?_toStore, hget, destroy, hwithout]
    rfl

/-- A sink that breaks down is one that is there. -/
lemma sinkIsFragile_eq_any : r.sinkIsFragile = r.sink.any Sink.fragile := by
  unfold sinkIsFragile
  cases r.sink <;> rfl

/-- The store of some of the sessions. -/
lemma toStore_restrict_congr (r r' : Registry) {xs ys : List Session} (hsink : r.sink = r'.sink)
    (hxs : xs.Sublist r.sessions) (hys : ys.Sublist r'.sessions) (h : xs = ys) :
    (r.restrict xs hxs).toStore = (r'.restrict ys hys).toStore :=
  Store.ext (congrArg (List.map Session.keyed) h) hsink

/-- Unless the sink breaks down, the sessions of some tokens are removed one after the other. -/
lemma removeEach_toStore (reason : RemovalReason) {gone : List Session} {r : Registry}
    (hgone : ∀ x ∈ gone, x ∈ r.sessions) (hnodup : gone.Nodup)
    (hfragile : r.sinkIsFragile = false) :
    Store.removeEach reason (gone.map Session.token) r.toStore =
      ⟨(r.restrict (r.sessions.filter (· ∉ gone)) List.filter_sublist).toStore,
        ⟨gone.map Session.token, true⟩, gone.flatMap (r.removalNotices reason)⟩ := by
  induction gone generalizing r with
  | nil =>
    have hall : r.sessions.filter (· ∉ ([] : List Session)) = r.sessions := by simp
    have hsame : (r.restrict (r.sessions.filter (· ∉ ([] : List Session)))
        List.filter_sublist).toStore = r.toStore :=
      Store.ext (congrArg (List.map Session.keyed) hall) rfl
    rw [hsame]
    rfl
  | cons x rest ih =>
    have hx : x ∈ r.sessions := hgone x List.mem_cons_self
    obtain ⟨hxrest, hrest⟩ := List.nodup_cons.mp hnodup
    let left := r.restrict (r.sessions.filter (·.token ≠ x.token)) List.filter_sublist
    have hwithout : r.toStore.without x.token = left.toStore := r.without_toStore rfl rfl
    have hsame : ∀ y ∈ r.sessions, y.token = x.token ↔ y = x := fun y hy =>
      ⟨session_eq hy hx, congrArg Session.token⟩
    have hleft : ∀ y ∈ rest, y ∈ left.sessions := fun y hy => by
      have hne : y ≠ x := fun heq => hxrest (heq ▸ hy)
      have hmem := hgone y (List.mem_cons_of_mem x hy)
      exact List.mem_filter.mpr ⟨hmem, by simpa using fun h => hne ((hsame y hmem).mp h)⟩
    have hlater := ih hleft hrest hfragile
    have hsink : r.toStore.sink.any Sink.fragile = false := r.sinkIsFragile_eq_any ▸ hfragile
    have hspared : left.sessions.filter (· ∉ rest) = r.sessions.filter (· ∉ x :: rest) := by
      show (r.sessions.filter _).filter _ = _
      rw [List.filter_filter]
      refine List.filter_congr fun y hy => ?_
      simp [hsame y hy, Bool.and_comm]
    rw [List.map_cons, Store.removeEach, get?_toStore, get?_eq_some_iff.mpr ⟨hx, rfl⟩]
    simp only [hsink, Bool.false_eq_true, if_false, hwithout, hlater,
      toStore_restrict_congr left r rfl _ List.filter_sublist hspared]
    rfl

/-- Sessions are removed from the store as from the registry. -/
lemma removeWhere_toStore (reason : RemovalReason) (doomed : Session → Bool) :
    r.toStore.removeWhere reason doomed = (r.removeWhere reason doomed).toStore := by
  have hgone : ∀ x ∈ r.sessions.filter doomed, x ∈ r.sessions := fun x hx =>
    (List.mem_filter.mp hx).1
  have hnodup : (r.sessions.filter doomed).Nodup := (r.tokens_nodup.of_map _).filter _
  rw [Store.removeWhere, values_toStore]
  cases hfragile : r.sinkIsFragile with
  | false =>
    have heach := removeEach_toStore reason hgone hnodup hfragile
    have hspared : r.sessions.filter (· ∉ r.sessions.filter doomed) =
        r.sessions.filter fun s => !doomed s := by
      refine List.filter_congr fun y hy => ?_
      simp [hy]
    simp only [heach, if_true, removeWhere, hfragile, Bool.false_eq_true, if_false,
      toStore_restrict_congr r r rfl _ List.filter_sublist hspared]
    rfl
  | true =>
    have hsink : r.toStore.sink.any Sink.fragile = true := r.sinkIsFragile_eq_any ▸ hfragile
    cases hfind : r.sessions.find? doomed with
    | none =>
      have hnone : r.sessions.filter doomed = [] :=
        List.filter_eq_nil_iff.mpr (List.find?_eq_none.mp hfind)
      simp only [removeWhere, hfragile, if_true, hfind, hnone]
      rfl
    | some first =>
      -- The first session on the list is the first one that is doomed, and the only one removed.
      obtain ⟨rest, hfirst⟩ := List.head?_eq_some_iff.mp ((List.head?_filter ..).trans hfind)
      have hx : first ∈ r.sessions := List.mem_of_find?_eq_some hfind
      simp only [hfirst, List.map_cons, Store.removeEach, get?_toStore,
        get?_eq_some_iff.mpr ⟨hx, rfl⟩, hsink, if_true, r.without_toStore_of_mem hx, removeWhere,
        hfragile, hfind]
      rfl

end Registry

/-! ## Orders -/

namespace Store

/-- Entries in the order in which their sessions come up. -/
def pick : List Session → List (SessionToken × Session) → List (SessionToken × Session)
  | [], _ => []
  | s :: rest, entries =>
    match entries.find? (·.2 = s) with
    | some e => e :: pick rest (entries.erase e)
    | none => pick rest entries

/-- If the sessions come up in another order, so do the entries. -/
lemma pick_perm {sessions : List Session} {entries : List (SessionToken × Session)}
    (h : sessions.Perm (entries.map Prod.snd)) : (pick sessions entries).Perm entries := by
  induction sessions generalizing entries with
  | nil =>
    obtain rfl : entries = [] := List.map_eq_nil_iff.mp h.nil_eq.symm
    exact .refl _
  | cons s rest ih =>
    cases hfind : entries.find? (·.2 = s) with
    | none =>
      obtain ⟨e, he, hs⟩ := List.mem_map.mp (h.mem_iff.mp List.mem_cons_self)
      exact absurd (by simpa using hs) (List.find?_eq_none.mp hfind e he)
    | some e =>
      have he : e ∈ entries := List.mem_of_find?_eq_some hfind
      obtain rfl : e.2 = s := by simpa using List.find?_some hfind
      have hrest : rest.Perm ((entries.erase e).map Prod.snd) :=
        (h.trans ((List.perm_cons_erase he).map Prod.snd)).cons_inv
      rw [pick, hfind]
      exact ((ih hrest).cons e).trans (List.perm_cons_erase he).symm

/-- Sessions under their own tokens come up with them. -/
lemma pick_keyed {sessions sessions' : List Session} (h : sessions.Perm sessions') :
    pick sessions (sessions'.map Session.keyed) = sessions.map Session.keyed := by
  induction sessions generalizing sessions' with
  | nil => rfl
  | cons s rest ih =>
    have hs : s ∈ sessions' := h.mem_iff.mp List.mem_cons_self
    have hinjective : Function.Injective Session.keyed := fun x y hxy => congrArg Prod.snd hxy
    have hfind : (sessions'.map Session.keyed).find? (·.2 = s) = some s.keyed := by
      rw [List.find?_map]
      have hself : sessions'.find? (· = s) = some s := by
        cases hfind : sessions'.find? (· = s) with
        | none => exact absurd (by simp) (List.find?_eq_none.mp hfind s hs)
        | some x => exact congrArg some (by simpa using List.find?_some hfind)
      exact congrArg (Option.map Session.keyed) hself
    have hrest : rest.Perm (sessions'.erase s) := (h.trans (List.perm_cons_erase hs)).cons_inv
    rw [pick, hfind, List.map_cons]
    refine congrArg (s.keyed :: ·) ?_
    rw [← List.map_erase hinjective, ih hrest]

/-- The store as it is searched at moment `k`. -/
def arranged (m : Store) (o : SearchOrder) (k : Nat) : Store where
  entries := pick (o.arrange k m.values) m.entries
  sink := m.sink
  keys_nodup := ((pick_perm (o.perm k m.values)).map Prod.fst).nodup_iff.mpr m.keys_nodup

end Store

/-- The store of a registry comes up as the registry does. -/
lemma Registry.arranged_toStore (r : Registry) (o : SearchOrder) (k : Nat) :
    r.toStore.arranged o k = (r.arranged o k).toStore := by
  refine Store.ext ?_ rfl
  show Store.pick (o.arrange k r.toStore.values) (r.sessions.map Session.keyed) = _
  rw [values_toStore]
  exact Store.pick_keyed (o.perm k r.sessions)

/-! ## Operations -/

/-- What changes a registry. -/
inductive Registry.Operation
  | create (now : Instant) (drawing : Drawing) (machineId identity conferenceName : String)
    (properties : TextMap)
  | attach (now : Instant) (token : SessionToken) (peer : PeerAddress)
  | destroy (token : SessionToken)
  | purge (conferenceName : String)
  | sweep (now : Instant) (lifetime : Duration)
  | setSink (sink : Option Sink)

/-- What an operation results in. -/
inductive Registry.Reply
  | session (session : Option Session)
  | flag (b : Bool)
  | removal (removal : Registry.Removal)
  | done

open Registry (Operation)

/-- Does what is asked of a registry. -/
def Registry.perform (r : Registry) : Operation → Registry.Outcome Registry.Reply
  | .create now drawing machineId identity conferenceName properties =>
    let o := r.create now drawing machineId identity conferenceName properties
    ⟨o.registry, .session (some o.value), o.notices⟩
  | .attach now token peer =>
    let o := r.attach now token peer
    ⟨o.registry, .session o.value, o.notices⟩
  | .destroy token => let o := r.destroy token; ⟨o.registry, .flag o.value, o.notices⟩
  | .purge name => let o := r.purge name; ⟨o.registry, .removal o.value, o.notices⟩
  | .sweep now lifetime => let o := r.sweep now lifetime; ⟨o.registry, .removal o.value, o.notices⟩
  | .setSink sink => ⟨{ r with sink := sink }, .done, []⟩

/-- Does what is asked of a store. -/
def Store.perform (m : Store) : Operation → Store.Outcome Registry.Reply
  | .create now drawing machineId identity conferenceName properties =>
    let o := m.create now drawing machineId identity conferenceName properties
    ⟨o.store, .session (some o.value), o.notices⟩
  | .attach now token peer =>
    let o := m.attach now token peer
    ⟨o.store, .session o.value, o.notices⟩
  | .destroy token => let o := m.destroy token; ⟨o.store, .flag o.value, o.notices⟩
  | .purge name => let o := m.purge name; ⟨o.store, .removal o.value, o.notices⟩
  | .sweep now lifetime => let o := m.sweep now lifetime; ⟨o.store, .removal o.value, o.notices⟩
  | .setSink sink => ⟨{ m with sink := sink }, .done, []⟩

/-- **An operation on the store of a registry is the operation on the registry.** -/
theorem Registry.perform_toStore (r : Registry) (op : Operation) :
    r.toStore.perform op = (r.perform op).toStore := by
  cases op with
  | create now drawing machineId identity conferenceName properties =>
    simp only [Store.perform, create_toStore]
    rfl
  | attach now token peer =>
    simp only [Store.perform, attach_toStore]
    rfl
  | destroy token =>
    simp only [Store.perform, destroy_toStore]
    rfl
  | purge name =>
    simp only [Store.perform, Store.purge, removeWhere_toStore]
    rfl
  | sweep now lifetime =>
    simp only [Store.perform, Store.sweep, removeWhere_toStore]
    rfl
  | setSink sink => rfl

/-- A registry after some operations. -/
def Registry.performAll (r : Registry) (ops : List Operation) : Registry :=
  ops.foldl (fun r op => (r.perform op).registry) r

/-- A store after some operations. -/
def Store.performAll (m : Store) (ops : List Operation) : Store :=
  ops.foldl (fun m op => (m.perform op).store) m

/-- Some operations on the store of a registry are those operations on the registry. -/
lemma Registry.performAll_toStore (r : Registry) (ops : List Operation) :
    r.toStore.performAll ops = (r.performAll ops).toStore := by
  induction ops generalizing r with
  | nil => rfl
  | cons op ops ih =>
    show (r.toStore.perform op).store.performAll ops = _
    rw [perform_toStore]
    exact ih _

/-! ## Moves -/

namespace Authority

/-- What a section asks of the registry if it is entered in this state. -/
def operations (a : Authority η) (s : State η) : Section → List Operation
  | .whole (.logout token) =>
    match s.registry.get? token with
    | none => []
    | some _ => [.destroy token]
  | .whole (.conferenceEnded name) => [.purge name]
  | .whole (.create machineId identity conferenceName properties) =>
    [.create s.now (a.draw s.drawn) machineId identity conferenceName properties]
  | .whole (.attach token peer) => [.attach s.now token peer]
  | .whole (.destroy token) => [.destroy token]
  | .whole (.purge name) => [.purge name]
  | .whole (.sweep offset lifetime) => [.sweep (s.now + offset) lifetime]
  | .whole (.setSink sink) => [.setSink sink]
  | .whole _ => []
  | .precheck _ _ => []
  | .commit _ requester (.reuse token) =>
    match s.registry.get? token with
    | none => []
    | some _ => [.attach s.now token requester]
  | .commit q requester (.verified v) =>
    match s.registry.findByIdentity? q.machineId v.identity with
    | some x => [.attach s.now x.token requester]
    | none =>
      [.create s.now (a.draw s.drawn) q.machineId v.identity q.conferenceName v.properties,
        .attach s.now (s.registry.freshToken (a.draw s.drawn)) requester]

variable (a : Authority η) (s : State η)

/-- A commit asks for what it leaves behind. -/
lemma registry_enterCommit (q : JoinRequest) (requester : PeerAddress) (g : Join.Grant) :
    (a.enterCommit s q requester g).1.registry =
      s.registry.performAll (a.operations s (.commit q requester g)) := by
  -- Whether the attachment is answered or not, the registry is the one that it leaves.
  have hattached : ∀ st, Join.seat s.registry s.now (a.draw s.drawn) q g = .ok st →
      (a.enterCommit s q requester g).1.registry =
        (st.registry.attach s.now st.token requester).registry := by
    intro st hseat
    simp only [enterCommit, enterCommitBy, Join.commit, hseat]
    cases (st.registry.attach s.now st.token requester).value <;> rfl
  cases g with
  | reuse t =>
    cases hget : s.registry.get? t with
    | none =>
      simp only [enterCommit, enterCommitBy, Join.commit, Join.seat, operations, hget]
      rfl
    | some x =>
      rw [hattached ⟨s.registry, t, false, []⟩ (by simp only [Join.seat, hget])]
      simp only [operations, hget]
      rfl
  | verified v =>
    cases hfind : s.registry.findByIdentity? q.machineId v.identity with
    | none =>
      let made := s.registry.create s.now (a.draw s.drawn) q.machineId v.identity q.conferenceName
        v.properties
      rw [hattached ⟨made.registry, made.value.token, true, made.notices⟩
        (by simp only [Join.seat, hfind, made])]
      simp only [operations, hfind]
      rfl
    | some x =>
      rw [hattached ⟨s.registry, x.token, false, []⟩ (by simp only [Join.seat, hfind])]
      simp only [operations, hfind]
      rfl

/-- **A section changes the registry by what it asks of it**, and not otherwise. -/
lemma registry_enter (pending : Section) :
    (a.enter s pending).1.registry = s.registry.performAll (a.operations s pending) := by
  cases pending with
  | precheck q requester => exact (a.enterPrecheck_unchanged s q requester).registry
  | commit q requester g => exact a.registry_enterCommit s q requester g
  | whole call =>
    cases call with
    | logout token =>
      show (a.logout s token).1.registry = _
      cases hget : s.registry.get? token with
      | none =>
        simp only [logout, operations, hget]
        rfl
      | some x =>
        simp only [logout, operations, hget]
        rfl
    | conferenceEnded name => exact (purgeEnded_unchanged s name).registry
    | create | attach | destroy | purge | sweep | setSink => rfl
    | join | lookup | session | sessionText | sessionCount | findByIdentity | findByPeer
    | registryText => rfl

end Authority

/-- What a move asks of the registry. -/
def Move.operations (a : Authority η) (w : World η) : Move → List Operation
  | .sweep sweeper => if sweeper.isAwake then [.sweep w.state.now sweeper.lifetime] else []
  | .receive hook channel =>
    match hook.ended? a.config.destroyOnConferenceEnd channel with
    | some name => [.purge name]
    | none => []
  | m =>
    match m.entered? w with
    | some pending => a.operations w.state pending
    | none => []

/-- **A move changes the registry by what it asks of it**, and not otherwise. -/
theorem World.registry_step (a : Authority η) (w : World η) (m : Move) :
    (w.step a m).state.registry = w.state.registry.performAll (m.operations a w) := by
  have hturn := w.turn a m
  generalize hentered : m.entered? w = entered, (w.step a m).state = s' at hturn ⊢
  cases hturn with
  | entered n registryFree pending =>
    simp only [Move.operations, hentered]
    exact (a.enterAndConsult_unchanged w.state pending registryFree).registry.trans
      (a.registry_enter w.state pending)
  | swept sweeper awake _ rest =>
    simp only [Move.operations, awake, if_true]
    exact rest.registry
  | purged hook channel name ended _ rest =>
    simp only [Move.operations, ended]
    exact rest.registry
  | waited | relisted => rfl
  | idle m asleep unended _ unchanged =>
    rw [unchanged.registry]
    cases m with
    | sweep sweeper =>
      simp only [Move.operations, asleep sweeper rfl]
      rfl
    | receive hook channel =>
      simp only [Move.operations, unended hook channel rfl]
      rfl
    | arrive | enter | answer | abandon | wait | relist =>
      simp only [Move.operations, hentered]
      rfl

/-! ## Runs -/

namespace Run

/-- What move `k` asks of the registry. -/
def operations (ρ : Run η) (o : SearchOrder) (k : Nat) : List Operation :=
  match ρ.moves[k]? with
  | some m => m.operations ρ.authority (ρ.worldIn o k)
  | none => []

/-- The store that move `k` finds if a store without sessions has been asked for whatever the moves
ask of the registry, and its entries come up in this order. -/
def storeIn (ρ : Run η) (o : SearchOrder) : Nat → Store
  | 0 => (Store.empty ρ.start.registry.sink).arranged o 0
  | k + 1 => ((ρ.storeIn o k).performAll (ρ.operations o k)).arranged o (k + 1)

/-- Move `k` changes the registry by what it asks of it. -/
lemma registryIn_succ (ρ : Run η) (o : SearchOrder) (k : Nat) :
    ρ.registryIn o (k + 1) =
      ((ρ.registryIn o k).performAll (ρ.operations o k)).arranged o (k + 1) := by
  cases hm : ρ.moves[k]? with
  | none =>
    rw [registryIn, worldIn_succ_of_none hm, operations, hm]
    rfl
  | some m =>
    rw [registryIn, worldIn_succ hm, operations, hm]
    exact congrArg (Registry.arranged · o (k + 1))
      (World.registry_step ρ.authority (ρ.worldIn o k) m)

/-- **The store holds the sessions of the registry, each under its own token**, at every move of a
run that starts without sessions. -/
theorem storeIn_eq {ρ : Run η} (h : ρ.start.registry.sessions = []) (o : SearchOrder) (k : Nat) :
    ρ.storeIn o k = (ρ.registryIn o k).toStore := by
  induction k with
  | zero =>
    have hempty : Store.empty ρ.start.registry.sink = ρ.start.registry.toStore :=
      Store.ext (congrArg (List.map Session.keyed) h).symm rfl
    rw [storeIn, hempty]
    exact ρ.start.registry.arranged_toStore o 0
  | succ k ih =>
    rw [storeIn, ih, Registry.performAll_toStore, Registry.arranged_toStore, registryIn_succ]

end Run

end Admittance
