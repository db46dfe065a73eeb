import Admittance.Registry
import Mathlib.Data.List.Nodup

/-!
# What a session is bound to

A session changes its connection and its last use while it lives, and nothing else.  Its *binding*
is what stays: token, machine, identity, conference and moment of creation.  Most of what can be
said of a registry over time is said of the list of its bindings, because there an operation does
one of two things only.  `Registry.create` puts one binding at the end
(`Registry.bindings_create`); every other operation leaves a sublist
(`Registry.bindings_attach`, `Registry.bindings_destroy_sublist`,
`Registry.bindings_removeWhere_sublist`).
-/

namespace Admittance

/-- The part of a session that never changes. -/
structure Binding where
  token : SessionToken
  machineId : String
  identity : String
  conferenceName : String
  createdAt : Instant
  deriving DecidableEq

namespace Session

/-- What a session is bound to. -/
def binding (s : Session) : Binding :=
  ⟨s.token, s.machineId, s.identity, s.conferenceName, s.createdAt⟩

@[simp] lemma binding_token (s : Session) : s.binding.token = s.token := rfl

@[simp] lemma binding_machineId (s : Session) : s.binding.machineId = s.machineId := rfl

@[simp] lemma binding_identity (s : Session) : s.binding.identity = s.identity := rfl

/-- A connection and a last use are no part of a binding. -/
@[simp] lemma binding_usedBy (s : Session) (peer : PeerAddress) (now : Instant) :
    (s.usedBy peer now).binding = s.binding := rfl

/-- A session without its connection has the same binding. -/
@[simp] lemma binding_detached (s : Session) : s.detached.binding = s.binding := rfl

end Session

/-- Where no key comes twice, an element is the only one of its key. -/
lemma filter_key_eq {α κ : Type} [DecidableEq κ] (key : α → κ) {l : List α} {x : α}
    (hnodup : (l.map key).Nodup) (hx : x ∈ l) : l.filter (fun y => key y = key x) = [x] := by
  induction l with
  | nil => simp at hx
  | cons y l ih =>
    rw [List.map_cons, List.nodup_cons] at hnodup
    rcases List.mem_cons.mp hx with rfl | hx
    · have hnone : l.filter (fun y => key y = key x) = [] := by
        rw [List.filter_eq_nil_iff]
        intro y hy hkey
        exact hnodup.1 (List.mem_map.mpr ⟨y, hy, of_decide_eq_true hkey⟩)
      rw [List.filter_cons_of_pos (by simp), hnone]
    · have hne : key y ≠ key x := fun heq => hnodup.1 (heq ▸ List.mem_map_of_mem hx)
      rw [List.filter_cons_of_neg (by simpa using hne), ih hnodup.2 hx]

namespace Registry

/-- The bindings of all live sessions. -/
def bindings (r : Registry) : List Binding := r.sessions.map Session.binding

/-- The tokens of all live sessions. -/
def tokens (r : Registry) : List SessionToken := r.bindings.map Binding.token

/-- The registry has a session of this token. -/
def IsLive (r : Registry) (token : SessionToken) : Prop := token ∈ r.tokens

instance (r : Registry) (token : SessionToken) : Decidable (r.IsLive token) :=
  inferInstanceAs (Decidable (token ∈ r.tokens))

/-! ## Searching -/

/-- The binding of a session is among the bindings. -/
lemma binding_mem {r : Registry} {s : Session} (h : s ∈ r.sessions) : s.binding ∈ r.bindings :=
  List.mem_map_of_mem h

/-- A token with a binding is live. -/
lemma isLive_of_mem {r : Registry} {b : Binding} (h : b ∈ r.bindings) : r.IsLive b.token :=
  List.mem_map_of_mem h

/-- A live token has a binding. -/
lemma exists_binding_of_isLive {r : Registry} {t : SessionToken} (h : r.IsLive t) :
    ∃ b ∈ r.bindings, b.token = t :=
  List.mem_map.mp h

/-- The tokens are those of the sessions, in their order. -/
lemma tokens_eq_map (r : Registry) : r.tokens = r.sessions.map Session.token := by
  rw [tokens, bindings, List.map_map]
  rfl

/-- No token is there twice. -/
lemma nodup_tokens (r : Registry) : r.tokens.Nodup :=
  r.tokens_eq_map ▸ r.tokens_nodup

/-- A token has one session. -/
lemma session_eq {r : Registry} {x y : Session} (hx : x ∈ r.sessions) (hy : y ∈ r.sessions)
    (htoken : x.token = y.token) : x = y :=
  List.inj_on_of_nodup_map r.tokens_nodup hx hy htoken

/-- A token has one binding. -/
lemma binding_eq {r : Registry} {b b' : Binding} (hb : b ∈ r.bindings) (hb' : b' ∈ r.bindings)
    (htoken : b.token = b'.token) : b = b' :=
  List.inj_on_of_nodup_map r.nodup_tokens hb hb' htoken

/-- A token has one binding if it is live, and none otherwise. -/
lemma bindings_of_token (r : Registry) (t : SessionToken) :
    (∃ b ∈ r.bindings, b.token = t ∧ r.bindings.filter (·.token = t) = [b]) ∨
      ¬ r.IsLive t ∧ r.bindings.filter (·.token = t) = [] := by
  by_cases hlive : r.IsLive t
  · obtain ⟨b, hb, rfl⟩ := exists_binding_of_isLive hlive
    exact .inl ⟨b, hb, rfl, filter_key_eq Binding.token r.nodup_tokens hb⟩
  · refine .inr ⟨hlive, List.filter_eq_nil_iff.mpr fun b hb htoken => ?_⟩
    exact hlive (of_decide_eq_true htoken ▸ isLive_of_mem hb)

/-- Where the doomed bindings are taken out, the tokens of the others stay live, and no others. -/
lemma isLive_iff_of_filter {r r' : Registry} {doomed : Binding → Bool}
    (h : r'.bindings = r.bindings.filter fun b => !doomed b) {b : Binding}
    (hb : b ∈ r.bindings) : r'.IsLive b.token ↔ doomed b = false := by
  constructor
  · intro hlive
    obtain ⟨b', hb', htoken⟩ := exists_binding_of_isLive hlive
    rw [h] at hb'
    obtain ⟨hmem, hleft⟩ := List.mem_filter.mp hb'
    rw [binding_eq hmem hb htoken] at hleft
    simpa using hleft
  · intro hleft
    have hmem : b ∈ r'.bindings := h ▸ List.mem_filter.mpr ⟨hb, by rw [hleft]; rfl⟩
    exact isLive_of_mem hmem

/-- A new session has a token that is not live. -/
lemma not_isLive_freshToken (r : Registry) (drawing : Drawing) :
    ¬ r.IsLive (r.freshToken drawing) := by
  rw [IsLive, tokens_eq_map]
  exact drawing.result_not_mem _

/-- What is found under a token is a session that has it. -/
lemma get?_eq_some {r : Registry} {t : SessionToken} {s : Session} (h : r.get? t = some s) :
    s ∈ r.sessions ∧ s.token = t :=
  ⟨List.mem_of_find?_eq_some h, by simpa using List.find?_some h⟩

/-- Nothing is found under a token just when it is not live. -/
lemma get?_eq_none_iff {r : Registry} {t : SessionToken} : r.get? t = none ↔ ¬ r.IsLive t := by
  simp [get?, IsLive, tokens, bindings, List.find?_eq_none]

/-- A token is live exactly if looking it up finds a session. -/
lemma isLive_iff_get? {r : Registry} {t : SessionToken} :
    r.IsLive t ↔ ∃ s, r.get? t = some s := by
  rw [← Option.ne_none_iff_exists', Ne, get?_eq_none_iff, not_not]

/-- Looking a token up finds the session of that token. -/
lemma get?_eq_some_iff {r : Registry} {t : SessionToken} {x : Session} :
    r.get? t = some x ↔ x ∈ r.sessions ∧ x.token = t := by
  refine ⟨get?_eq_some, ?_⟩
  rintro ⟨hx, rfl⟩
  obtain ⟨y, hy⟩ := isLive_iff_get?.mp (isLive_of_mem (binding_mem hx))
  obtain ⟨hmem, htoken⟩ := get?_eq_some hy
  exact hy.trans (congrArg some (session_eq hmem hx htoken))

/-- The search by machine and identity finds a session of both. -/
lemma findByIdentity?_eq_some {r : Registry} {m i : String} {s : Session}
    (h : r.findByIdentity? m i = some s) : s ∈ r.sessions ∧ s.machineId = m ∧ s.identity = i := by
  have hmem : s ∈ r.ofIdentity m i := List.mem_of_head? h
  unfold ofIdentity at hmem
  split at hmem
  · simp at hmem
  · obtain ⟨hs, hmatch⟩ := List.mem_filter.mp hmem
    simp only [Bool.and_eq_true, decide_eq_true_eq] at hmatch
    exact ⟨hs, hmatch.2, hmatch.1⟩

/-- The search fails for a named machine and identity only if no session has both. -/
lemma ne_of_findByIdentity?_eq_none {r : Registry} {m i : String}
    (hm : m.isEmpty = false) (hi : i.isEmpty = false) (h : r.findByIdentity? m i = none)
    {b : Binding} (hb : b ∈ r.bindings) : ¬ (b.machineId = m ∧ b.identity = i) := by
  rintro ⟨rfl, rfl⟩
  obtain ⟨s, hs, rfl⟩ := List.mem_map.mp hb
  have hnil : r.ofIdentity s.machineId s.identity = [] := List.head?_eq_none_iff.mp h
  have hmem : s ∈ r.ofIdentity s.machineId s.identity := by
    simp only [Session.binding_machineId, Session.binding_identity] at hm hi
    simp [ofIdentity, hm, hi, hs]
  simp [hnil] at hmem

/-! ## Changing -/

/-- A new session's binding stands behind all others. -/
lemma bindings_create (r : Registry) (now : Instant) (drawing : Drawing)
    (machineId identity conferenceName : String) (properties : TextMap) :
    (r.create now drawing machineId identity conferenceName properties).registry.bindings =
      r.bindings ++ [⟨r.freshToken drawing, machineId, identity, conferenceName, now⟩] := by
  simp [create, add, bindings, Session.binding, Session.opened]

/-- A new session is live. -/
lemma isLive_create (r : Registry) (now : Instant) (drawing : Drawing)
    (machineId identity conferenceName : String) (properties : TextMap) :
    (r.create now drawing machineId identity conferenceName properties).registry.IsLive
      (r.freshToken drawing) := by
  rw [IsLive, tokens, bindings_create, List.map_append]
  exact List.mem_append_right _ (List.mem_singleton_self _)

/-- An attachment keeps the binding of every session. -/
lemma binding_reattached (now : Instant) (token : SessionToken) (peer : PeerAddress)
    (s : Session) : (reattached now token peer s).binding = s.binding := by
  unfold reattached
  split
  · exact s.binding_usedBy peer now
  · split
    · exact s.binding_detached
    · rfl

/-- Attaching a connection binds nobody anew. -/
@[simp] lemma bindings_attach (r : Registry) (now : Instant) (token : SessionToken)
    (peer : PeerAddress) : (r.attach now token peer).registry.bindings = r.bindings := by
  unfold attach
  split
  · rfl
  · simp only [bindings, reattach, List.map_map]
    exact List.map_congr_left fun s _ => binding_reattached now token peer s

/-- The session that an attachment answers is the one of the token. -/
lemma attach_value (r : Registry) (now : Instant) (token : SessionToken) (peer : PeerAddress) :
    (r.attach now token peer).value = (r.get? token).map fun s => s.usedBy peer now := by
  unfold attach
  cases r.get? token <;> rfl

/-- A removal only takes sessions away. -/
lemma sessions_destroy_sublist (r : Registry) (token : SessionToken) :
    (r.destroy token).registry.sessions.Sublist r.sessions := by
  unfold destroy
  split
  · exact List.Sublist.refl _
  · exact List.filter_sublist

/-- A removal of several sessions leaves sessions that were there, in their order. -/
lemma sessions_removeWhere_sublist (r : Registry) (reason : RemovalReason)
    (doomed : Session → Bool) :
    (r.removeWhere reason doomed).registry.sessions.Sublist r.sessions := by
  unfold removeWhere
  split
  · split
    · exact List.Sublist.refl _
    · exact List.erase_sublist
  · exact List.filter_sublist

/-- A removal spares those that are not doomed. -/
lemma mem_removeWhere_of_spared {r : Registry} {reason : RemovalReason} {doomed : Session → Bool}
    {s : Session} (hs : s ∈ r.sessions) (hspared : doomed s = false) :
    s ∈ (r.removeWhere reason doomed).registry.sessions := by
  unfold removeWhere
  split
  · split
    · exact hs
    · rename_i first hfind
      have hfirst := List.find?_some hfind
      exact (List.mem_erase_of_ne fun hsame => by simp [← hsame, hspared] at hfirst).mpr hs
  · exact List.mem_filter.mpr ⟨hs, by rw [hspared]; rfl⟩

/-- A removal that comes to its end has taken the doomed sessions, one by one. -/
lemma removeWhere_of_completed {r : Registry} {reason : RemovalReason} {doomed : Session → Bool}
    (h : (r.removeWhere reason doomed).value.completed = true) :
    r.removeWhere reason doomed =
      { registry := r.restrict (r.sessions.filter fun s => !doomed s) List.filter_sublist
        value := ⟨(r.sessions.filter doomed).map (·.token), true⟩
        notices := (r.sessions.filter doomed).flatMap (r.removalNotices reason) } := by
  cases hfragile : r.sinkIsFragile with
  | false => simp only [removeWhere, hfragile, Bool.false_eq_true, if_false]
  | true =>
    cases hfind : r.sessions.find? doomed with
    | some first => simp [removeWhere, hfragile, hfind] at h
    | none =>
      -- The sink has not broken down because there was nothing to remove.
      have hspared : ∀ s ∈ r.sessions, ¬ doomed s = true := List.find?_eq_none.mp hfind
      have hall : (r.sessions.filter fun s => !doomed s) = r.sessions :=
        List.filter_eq_self.mpr fun s hs => by simp [hspared s hs]
      simp only [removeWhere, hfragile, if_true, hfind, restrict, hall,
        List.filter_eq_nil_iff.mpr hspared]
      rfl

/-- A removal that comes to its end leaves those that are not doomed. -/
lemma mem_removeWhere {r : Registry} {reason : RemovalReason} {doomed : Session → Bool}
    (h : (r.removeWhere reason doomed).value.completed = true) {s : Session} :
    s ∈ (r.removeWhere reason doomed).registry.sessions ↔
      s ∈ r.sessions ∧ doomed s = false := by
  rw [removeWhere_of_completed h]
  simp [restrict]

/-- Only a fragile sink keeps a removal from its end. -/
lemma sinkIsFragile_of_not_completed {r : Registry} {reason : RemovalReason}
    {doomed : Session → Bool} (h : (r.removeWhere reason doomed).value.completed = false) :
    r.sinkIsFragile = true := by
  by_contra hfragile
  simp [removeWhere, hfragile] at h

/-- A removal by token leaves bindings that were there, in their order. -/
lemma bindings_destroy_sublist (r : Registry) (token : SessionToken) :
    (r.destroy token).registry.bindings.Sublist r.bindings :=
  (r.sessions_destroy_sublist token).map _

/-- A removal of several sessions leaves bindings that were there, in their order. -/
lemma bindings_removeWhere_sublist (r : Registry) (reason : RemovalReason)
    (doomed : Session → Bool) :
    (r.removeWhere reason doomed).registry.bindings.Sublist r.bindings :=
  (r.sessions_removeWhere_sublist reason doomed).map _

/-! ## The sink -/

/-- An attachment keeps the sink. -/
@[simp] lemma sink_attach (r : Registry) (now : Instant) (token : SessionToken)
    (peer : PeerAddress) : (r.attach now token peer).registry.sink = r.sink := by
  unfold attach
  split <;> rfl

/-- A removal by token keeps the sink. -/
@[simp] lemma sink_destroy (r : Registry) (token : SessionToken) :
    (r.destroy token).registry.sink = r.sink := by
  unfold destroy
  split <;> rfl

/-- A removal of several sessions keeps the sink. -/
@[simp] lemma sink_removeWhere (r : Registry) (reason : RemovalReason)
    (doomed : Session → Bool) : (r.removeWhere reason doomed).registry.sink = r.sink := by
  unfold removeWhere
  split
  · split <;> rfl
  · rfl

end Registry

end Admittance
