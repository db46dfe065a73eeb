import Admittance.Proofs.Landing
import Mathlib.Logic.Equiv.Basic

/-!
# Independent joins commute

Two joins that come from different connections and concern different devices may be exchanged: each
is answered the same, the sink hears of the same creations and the registry ends up the same, but
for the tokens of the sessions that they open (`Authority.joins_commute`).  Nothing is assumed of
the registry, which may also have the one connection attached to the session that the other join
uses.

A join looks at the bindings of the registry, which the other one leaves alone but for one more, of
another device and under a token that nobody presents; so each leads to the same session in either
order (`Authority.landing_eq`).  The connections that the two take away from all other sessions may
be taken away in either order, and none takes away the one that the other has just attached
(`Registry.Turned.commute`).
-/

namespace Admittance

variable {η : Type}

/-! ## Renaming tokens -/

/-- Values that are pairwise different can be renamed to as many others by a permutation that moves
nothing else. -/
lemma exists_perm_map_eq {α : Type} [DecidableEq α] {l l' : List α} (hnodup : l.Nodup)
    (hnodup' : l'.Nodup) (hlength : l.length = l'.length) :
    ∃ σ : Equiv.Perm α, l.map σ = l' ∧ ∀ y, y ∉ l → y ∉ l' → σ y = y := by
  induction l generalizing l' with
  | nil =>
    obtain rfl := List.eq_nil_of_length_eq_zero hlength.symm
    exact ⟨Equiv.refl α, rfl, fun _ _ _ => rfl⟩
  | cons u l ih =>
    obtain _ | ⟨v, l'⟩ := l'
    · cases hlength
    · obtain ⟨hu, hnodup⟩ := List.nodup_cons.mp hnodup
      obtain ⟨hv, hnodup'⟩ := List.nodup_cons.mp hnodup'
      obtain ⟨σ, rfl, hfixed⟩ := ih hnodup hnodup' (Nat.succ.inj hlength)
      -- Whatever `σ` makes of `u` changes places with `v`.
      refine ⟨σ.trans (Equiv.swap (σ u) v), ?_, ?_⟩
      · rw [List.map_cons, Equiv.trans_apply, Equiv.swap_apply_left]
        refine congrArg (v :: ·) (List.map_congr_left fun y hy => ?_)
        have hne : σ y ≠ σ u := fun heq => hu (σ.injective heq ▸ hy)
        have hne' : σ y ≠ v := fun heq => hv (heq ▸ List.mem_map_of_mem hy)
        rw [Equiv.trans_apply, Equiv.swap_apply_of_ne_of_ne hne hne']
      · intro y hy hy'
        rw [List.mem_cons, not_or] at hy hy'
        have hsame : σ y = y := hfixed y hy.2 hy'.2
        have hne : y ≠ σ u := fun heq => hy.1 (σ.injective (hsame.trans heq))
        rw [Equiv.trans_apply, hsame]
        exact Equiv.swap_apply_of_ne_of_ne hne hy'.1

section Renaming

variable (f : SessionToken → SessionToken)

/-- The session under a new token. -/
def Session.renamed (x : Session) : Session := { x with token := f x.token }

def Binding.renamed (b : Binding) : Binding := { b with token := f b.token }

/-- The event of a session under a new token. -/
def Event.renamed : Event → Event
  | .created token identity machineId properties => .created (f token) identity machineId properties
  | .destroyed token identity machineId reason => .destroyed (f token) identity machineId reason

/-- An answer that tells of a new token. -/
def JoinResult.renamed (result : JoinResult) : JoinResult :=
  result.map fun response => { response with sessionToken := f response.sessionToken }

namespace Join.Landing

/-- The token that is drawn. -/
def drawn (l : Landing) : List SessionToken := l.made.map Binding.token

/-- A landing draws one token at most. -/
lemma nodup_drawn (l : Landing) : l.drawn.Nodup := by
  cases l with
  | refused | reused => exact List.nodup_nil
  | opened b => exact List.nodup_singleton b.token

/-- A landing whose session has a new token. -/
def renamed : Landing → Landing
  | refused e => .refused e
  | reused b => .reused (b.renamed f)
  | opened b properties => .opened (b.renamed f) properties

/-- The session of a renamed landing is the renamed session. -/
lemma map_seat?_renamed (requester : PeerAddress) (now : Instant) (l : Landing) :
    ((l.renamed f).seat?.map fun b => b.usedBy requester now) =
      (l.seat?.map fun b => b.usedBy requester now).map (Session.renamed f) := by
  cases l <;> rfl

/-- A renamed landing is answered with the renamed token. -/
lemma result_renamed (l : Landing) : (l.renamed f).result = JoinResult.renamed f l.result := by
  cases l <;> rfl

/-- A renamed landing reports the renamed session. -/
lemma news_renamed (l : Landing) : (l.renamed f).news = l.news.map (Event.renamed f) := by
  cases l <;> rfl

/-- What becomes of other sessions has nothing to do with the token. -/
lemma leave_renamed (requester : PeerAddress) (l : Landing) :
    (l.renamed f).leave requester = l.leave requester := by
  cases l <;> rfl

end Join.Landing

/-- Events may be renamed before they are reported. -/
lemma State.map_reported_renamed (s : State η) (news : List Event) :
    ((news.flatMap s.reported).map fun entry => (entry.1, entry.2.1, entry.2.2.renamed f)) =
      (news.map (Event.renamed f)).flatMap s.reported := by
  rw [List.map_flatMap, List.flatMap_map]
  refine List.flatMap_congr fun e _ => ?_
  unfold State.reported
  cases s.registry.sink <;> rfl

end Renaming

/-! ## Registries -/

namespace Registry

variable {r r₁ r₂ x y : Registry} {σ : Equiv.Perm SessionToken}

/-- **Two changes commute** that have come to use sessions of different tokens, if neither spoils
what the other has made. -/
lemma Turned.commute {f₁ f₂ : Session → Session} {x₁ x₂ : Option Session}
    (h₁ : Turned r r₁ f₁ x₁) (h₂ : Turned r₁ x f₂ x₂)
    (h₂' : Turned r r₂ f₂ (x₂.map (Session.renamed σ)))
    (h₁' : Turned r₂ y f₁ (x₁.map (Session.renamed σ)))
    (hcomm : ∀ z, f₁ (f₂ z) = f₂ (f₁ z)) (hspared₁ : ∀ z, x₁ = some z → f₂ z = z)
    (hspared₂ : ∀ z, x₂ = some z → f₁ (z.renamed σ) = z.renamed σ)
    (htokens : ∀ z z', x₁ = some z → x₂ = some z' → z.token ≠ z'.token)
    (hlive : ∀ t, r.IsLive t → σ t = t) (t : SessionToken) :
    y.get? (σ t) = (x.get? t).map (Session.renamed σ) := by
  -- The token is that of what the second change has made, or the first, or it was there before.
  by_cases ht₂ : ∃ z, x₂ = some z ∧ z.token = t
  · obtain ⟨z, rfl, rfl⟩ := ht₂
    have hother : ∀ z', x₁.map (Session.renamed σ) = some z' → z'.token ≠ σ z.token := by
      intro z' hz' htoken
      obtain ⟨z₁, hz₁, rfl⟩ := Option.map_eq_some_iff.mp hz'
      exact htokens z₁ z hz₁ rfl (σ.injective htoken)
    have hself : r₂.get? (σ z.token) = some (z.renamed σ) := h₂'.self (z.renamed σ) rfl
    rw [h₂.self z rfl, h₁'.others _ hother, hself, Option.map_some, Option.map_some, hspared₂ z rfl]
  · have hother₂ : ∀ z, x₂ = some z → z.token ≠ t := fun z hz ht => ht₂ ⟨z, hz, ht⟩
    by_cases ht₁ : ∃ z, x₁ = some z ∧ z.token = t
    · obtain ⟨z, rfl, rfl⟩ := ht₁
      have hself : y.get? (σ z.token) = some (z.renamed σ) := h₁'.self (z.renamed σ) rfl
      rw [hself, h₂.others _ hother₂, h₁.self z rfl, Option.map_some, hspared₁ z rfl,
        Option.map_some]
    · have hother₁ : ∀ z, x₁ = some z → z.token ≠ t := fun z hz ht => ht₁ ⟨z, hz, ht⟩
      have hrenamed : ∀ {o : Option Session}, (∀ z, o = some z → z.token ≠ t) →
          ∀ z', o.map (Session.renamed σ) = some z' → z'.token ≠ σ t := by
        intro o ho z' hz' htoken
        obtain ⟨z, hz, rfl⟩ := Option.map_eq_some_iff.mp hz'
        exact ho z hz (σ.injective htoken)
      have hx : x.get? t = ((r.get? t).map f₁).map f₂ := by
        rw [h₂.others t hother₂, h₁.others t hother₁]
      have hy : y.get? (σ t) = ((r.get? (σ t)).map f₂).map f₁ := by
        rw [h₁'.others _ (hrenamed hother₁), h₂'.others _ (hrenamed hother₂)]
      by_cases ht : r.IsLive t
      · obtain ⟨z, hz⟩ := isLive_iff_get?.mp ht
        rw [hz, Option.map_some, Option.map_some] at hx
        have htoken : (f₂ (f₁ z)).token = t := (get?_eq_some hx).2
        have hfixed : (f₂ (f₁ z)).renamed σ = f₂ (f₁ z) := by
          rw [Session.renamed, htoken, hlive t ht, ← htoken]
        rw [hy, hlive t ht, hz, hx, Option.map_some, Option.map_some, Option.map_some, hfixed,
          hcomm]
      · -- A token that is renamed to a live one is that one itself.
        have ht' : ¬ r.IsLive (σ t) := fun h => ht (σ.injective (hlive _ h) ▸ h)
        rw [hx, hy, get?_eq_none_iff.mpr ht, get?_eq_none_iff.mpr ht']
        rfl

/-- Registries are the same if tokens are looked up with the same result. -/
lemma perm_of_get? (h : ∀ t, y.get? (σ t) = (x.get? t).map (Session.renamed σ)) :
    (x.sessions.map (Session.renamed σ)).Perm y.sessions := by
  have htokens : (x.sessions.map (Session.renamed σ)).map Session.token =
      (x.sessions.map Session.token).map σ := by
    rw [List.map_map, List.map_map]
    rfl
  have hnodup : (x.sessions.map (Session.renamed σ)).Nodup :=
    List.Nodup.of_map Session.token (htokens ▸ x.tokens_nodup.map σ.injective)
  refine (List.perm_ext_iff_of_nodup hnodup y.tokens_nodup.of_map).mpr fun z => ?_
  rw [List.mem_map]
  constructor
  · rintro ⟨z, hz, rfl⟩
    have hget := h z.token
    rw [get?_eq_some_iff.mpr ⟨hz, rfl⟩] at hget
    exact (get?_eq_some hget).1
  · intro hz
    have hget := h (σ.symm z.token)
    rw [σ.apply_symm_apply, get?_eq_some_iff.mpr ⟨hz, rfl⟩] at hget
    obtain ⟨z', hz', hrenamed⟩ := Option.map_eq_some_iff.mp hget.symm
    exact ⟨z', (get?_eq_some hz').1, hrenamed⟩

end Registry

/-- A connection is not taken away by another one. -/
lemma Session.leftBy_of_ne {p : PeerAddress} {x : Session} (h : x.peer ≠ some p) : x.leftBy p = x :=
  if_neg h

/-- Two connections may be taken away in either order. -/
lemma Session.leftBy_comm (p p' : PeerAddress) (x : Session) :
    (x.leftBy p).leftBy p' = (x.leftBy p').leftBy p := by
  have hfree : ∀ p, ({ x with peer := none } : Session).leftBy p = { x with peer := none } :=
    fun p => leftBy_of_ne (by simp)
  by_cases hp : x.peer = some p
  · have hleft : x.leftBy p = { x with peer := none } := if_pos hp
    by_cases hp' : x.peer = some p'
    · have hleft' : x.leftBy p' = { x with peer := none } := if_pos hp'
      rw [hleft, hleft', hfree, hfree]
    · rw [leftBy_of_ne hp', hleft, hfree]
  · rw [leftBy_of_ne hp]
    by_cases hp' : x.peer = some p'
    · have hleft' : x.leftBy p' = { x with peer := none } := if_pos hp'
      rw [hleft', hfree]
    · rw [leftBy_of_ne hp', leftBy_of_ne hp]

namespace Join.Landing

variable {p p' : PeerAddress} {x : Session}

/-- Two connections may be taken away in either order. -/
lemma leave_comm (l l' : Landing) (x : Session) :
    l.leave p (l'.leave p' x) = l'.leave p' (l.leave p x) := by
  cases l with
  | refused => rfl
  | reused | opened =>
    cases l' with
    | refused => rfl
    | reused | opened => exact Session.leftBy_comm p' p x

/-- A session that does not use the connection stays as it is. -/
lemma leave_of_ne (l : Landing) (h : x.peer ≠ some p) : l.leave p x = x := by
  cases l with
  | refused => rfl
  | reused | opened => exact Session.leftBy_of_ne h

end Join.Landing

/-! ## Two joins in turn -/

/-- What two calls come to that run one after the other. -/
structure Succession (η : Type) where
  state : State η
  first : Progress
  second : Progress

namespace Authority

/-- Two calls run one after the other, and nobody interferes. -/
def inTurn (a : Authority η) (s : State η) (call call' : Call) : Succession η :=
  let reached := a.perform s call
  let reached' := a.perform reached.1 call'
  ⟨reached'.1, reached.2, reached'.2⟩

end Authority

namespace Succession

/-- A token was drawn for a session that two calls have opened in the one order or in the other. -/
def Drawn (s : State η) (x y : Succession η) (t : SessionToken) : Prop :=
  ¬ s.registry.IsLive t ∧ (x.state.registry.IsLive t ∨ y.state.registry.IsLive t)

/-- Two joins have come to the same in either order, but for some tokens. -/
structure SameUpTo (s : State η) (σ : Equiv.Perm SessionToken) (x y : Succession η) : Prop where
  /-- Only tokens that were drawn are renamed. -/
  drawn : ∀ t, σ t ≠ t → Drawn s x y t
  /-- The join that is first in the one order and second in the other. -/
  first : ∃ result, x.first = .answered (.join result) ∧
    y.second = .answered (.join (JoinResult.renamed σ result))
  second : ∃ result, x.second = .answered (.join result) ∧
    y.first = .answered (.join (JoinResult.renamed σ result))
  sessions : (x.state.registry.sessions.map (Session.renamed σ)).Perm y.state.registry.sessions
  sink : y.state.registry.sink = x.state.registry.sink
  events : ∃ news news', x.state.events = s.events ++ news ∧ y.state.events = s.events ++ news' ∧
    (news.map fun entry => (entry.1, entry.2.1, entry.2.2.renamed σ)).Perm news'

end Succession

namespace Settles

variable {s s' s'' : State η} {p p' : PeerAddress} {l l' : Join.Landing}

/-- A join that settles removes nothing. -/
lemma isLive (h : Settles s s' p l) {t : SessionToken} (ht : s.registry.IsLive t) :
    s'.registry.IsLive t := by
  obtain ⟨b, hb, rfl⟩ := Registry.exists_binding_of_isLive ht
  exact Registry.isLive_of_mem (h.bindings ▸ List.mem_append_left _ hb)

/-- The token that a join draws is live when it has settled. -/
lemma isLive_of_drawn (h : Settles s s' p l) {t : SessionToken} (ht : t ∈ l.drawn) :
    s'.registry.IsLive t := by
  obtain ⟨b, hb, rfl⟩ := List.mem_map.mp ht
  exact Registry.isLive_of_mem (h.bindings ▸ List.mem_append_right _ hb)

/-- What two joins report. -/
lemma events_trans (h : Settles s s' p l) (h' : Settles s' s'' p' l') :
    s''.events = s.events ++ (l.news ++ l'.news).flatMap s.reported := by
  have hreported : s'.reported = s.reported := by
    funext e
    rw [State.reported, h.sink, h.now]
    rfl
  rw [h'.events, h.events, hreported, List.flatMap_append, List.append_assoc]

/-- Sessions of different devices have different tokens. -/
lemma token_ne (h : Settles s s' p l) (h' : Settles s' s'' p' l') {b b' : Binding}
    (hb : l.seat? = some b) (hb' : l'.seat? = some b')
    (hdevice : (b.machineId, b.identity) ≠ (b'.machineId, b'.identity)) : b.token ≠ b'.token := by
  intro htoken
  have hmem : b ∈ s''.registry.bindings := h'.bindings ▸ List.mem_append_left _ (h.mem_bindings hb)
  obtain rfl := Registry.binding_eq hmem (h'.mem_bindings hb') htoken
  exact hdevice rfl

end Settles

namespace Authority

variable {a : Authority η} {r : Registry} {q : JoinRequest} {requester : PeerAddress}
  {now : Instant} {fresh : SessionToken}

/-- What is bound anew is the session of a join that is verified. -/
lemma exists_of_mem_made {b : Binding} (h : b ∈ (a.landing r q requester now fresh).made) :
    ∃ v, a.entitled r q requester = .ok (.verified v) ∧ b = Join.newBinding now fresh q v := by
  unfold landing at h
  cases hentitled : a.entitled r q requester with
  | error e =>
    rw [hentitled] at h
    cases h
  | ok g =>
    rw [hentitled] at h
    cases g with
    | reuse t =>
      simp only [Join.Grant.landing] at h
      split at h <;> cases h
    | verified v =>
      simp only [Join.Grant.landing] at h
      split at h
      · cases h
      · exact ⟨v, rfl, List.mem_singleton.mp h⟩

/-- The token that is drawn is the one that comes up. -/
lemma eq_of_mem_drawn {t : SessionToken} (h : t ∈ (a.landing r q requester now fresh).drawn) :
    t = fresh := by
  obtain ⟨b, hb, rfl⟩ := List.mem_map.mp h
  obtain ⟨v, -, rfl⟩ := exists_of_mem_made hb
  rfl

/-- Whether a token is drawn does not depend on the token. -/
lemma length_drawn (fresh fresh' : SessionToken) :
    (a.landing r q requester now fresh).drawn.length =
      (a.landing r q requester now fresh').drawn.length := by
  unfold landing
  cases a.entitled r q requester with
  | error e => rfl
  | ok g =>
    cases g with
    | reuse t => rfl
    | verified v =>
      simp only [Join.Grant.landing]
      cases r.bindingFor? q.machineId v.identity <;> rfl

/-- The landing at which another token comes up is the same but for this token. -/
lemma landing_renamed {fresh' : SessionToken} {σ : SessionToken → SessionToken}
    (hlive : ∀ t, r.IsLive t → σ t = t)
    (hdrawn : (a.landing r q requester now fresh).drawn.map σ =
      (a.landing r q requester now fresh').drawn) :
    a.landing r q requester now fresh' = (a.landing r q requester now fresh).renamed σ := by
  have hreused : ∀ b ∈ r.bindings, .reused b = (Join.Landing.reused b).renamed σ := by
    intro b hb
    rw [Join.Landing.renamed, Binding.renamed, hlive b.token (Registry.isLive_of_mem hb)]
  unfold landing at hdrawn ⊢
  cases hentitled : a.entitled r q requester with
  | error e => rfl
  | ok g =>
    rw [hentitled] at hdrawn
    cases g with
    | reuse t =>
      simp only [Join.Grant.landing]
      cases hfind : r.bindingOf? t with
      | none => rfl
      | some b => exact hreused b (List.mem_of_find?_eq_some hfind)
    | verified v =>
      simp only [Join.Grant.landing] at hdrawn ⊢
      cases hfind : r.bindingFor? q.machineId v.identity with
      | none =>
        rw [hfind] at hdrawn
        obtain rfl : σ fresh = fresh' := List.head_eq_of_cons_eq hdrawn
        rfl
      | some b => exact hreused b (Registry.mem_of_bindingFor? hfind)

/-- How two joins come to their landings one after the other, where `t` and `t'` come up. -/
structure Stages (a : Authority η) (s : State η) (q : JoinRequest) (p : PeerAddress)
    (q' : JoinRequest) (p' : PeerAddress) (x : Succession η) (s₁ : State η) (t t' : SessionToken) :
    Prop where
  settles : Settles s s₁ p (a.landing s.registry q p s.now t)
  settles' : Settles s₁ x.state p' (a.landing s₁.registry q' p' s.now t')
  first : x.first = .answered (.join (a.landing s.registry q p s.now t).result)
  second : x.second = .answered (.join (a.landing s₁.registry q' p' s.now t').result)
  fresh : ¬ s.registry.IsLive t
  fresh' : ¬ s₁.registry.IsLive t'

/-- The authority with another way of drawing tokens. -/
def redrawn (a : Authority η) (draw : Nat → Drawing) : Authority η := { a with draw := draw }

/-- Two joins come to their landings so, in whatever way tokens are drawn. -/
lemma stages (a : Authority η) (draw : Nat → Drawing) (s : State η) (q : JoinRequest)
    (p : PeerAddress) (q' : JoinRequest) (p' : PeerAddress) :
    Stages a s q p q' p' ((a.redrawn draw).inTurn s (.join q p) (.join q' p'))
      ((a.redrawn draw).perform s (.join q p)).1 ((a.redrawn draw).nextToken s)
      ((a.redrawn draw).nextToken ((a.redrawn draw).perform s (.join q p)).1) := by
  obtain ⟨hsettles, hfirst⟩ := (a.redrawn draw).settles s q p
  obtain ⟨hsettles', hsecond⟩ :=
    (a.redrawn draw).settles ((a.redrawn draw).perform s (.join q p)).1 q' p'
  rw [hsettles.now] at hsettles' hsecond
  exact ⟨hsettles, hsettles', hfirst, hsecond, (a.redrawn draw).not_isLive_nextToken s,
    (a.redrawn draw).not_isLive_nextToken _⟩

namespace Stages

variable {s s₁ s₂ : State η} {q₁ q₂ : JoinRequest} {p₁ p₂ : PeerAddress} {x y : Succession η}
  {t₁ t₂ u₁ u₂ : SessionToken}

/-- Two joins draw different tokens, which are not live before and live afterwards. -/
lemma drawn (h : Stages a s q₁ p₁ q₂ p₂ x s₁ t₁ t₂) :
    ((a.landing s.registry q₁ p₁ s.now t₁).drawn ++
        (a.landing s₁.registry q₂ p₂ s.now t₂).drawn).Nodup ∧
      ∀ t ∈ (a.landing s.registry q₁ p₁ s.now t₁).drawn ++
          (a.landing s₁.registry q₂ p₂ s.now t₂).drawn,
        ¬ s.registry.IsLive t ∧ x.state.registry.IsLive t := by
  constructor
  · refine List.nodup_append.mpr ⟨Join.Landing.nodup_drawn _, Join.Landing.nodup_drawn _, ?_⟩
    rintro t ht _ ht' rfl
    exact h.fresh' (eq_of_mem_drawn ht' ▸ h.settles.isLive_of_drawn ht)
  · intro t ht
    rcases List.mem_append.mp ht with ht | ht
    · refine ⟨?_, h.settles'.isLive (h.settles.isLive_of_drawn ht)⟩
      rw [eq_of_mem_drawn ht]
      exact h.fresh
    · refine ⟨fun hlive => ?_, h.settles'.isLive_of_drawn ht⟩
      rw [eq_of_mem_drawn ht] at hlive
      exact h.fresh' (h.settles.isLive hlive)

section Second

variable (h : Stages a s q₁ p₁ q₂ p₂ x s₁ t₁ t₂) (hverifier : a.verifier.IgnoresSession)
  (htokens : ∀ t ∈ (a.landing s.registry q₁ p₁ s.now t₁).drawn, ¬ q₂.Presents t)
include h hverifier htokens

/-- The second join is entitled to what it would be entitled to without the first one. -/
lemma entitled_eq : a.entitled s₁.registry q₂ p₂ = a.entitled s.registry q₂ p₂ := by
  refine Authority.entitled_eq hverifier fun t ht => ?_
  refine Registry.bindingOf?_eq h.settles.bindings fun b hb hbt => ?_
  exact htokens b.token (List.mem_map_of_mem hb) (JoinRequest.presents_iff.mpr (hbt ▸ ht))

/-- It leads where it would lead without the first one. -/
lemma landing_eq (hdevices : ∀ v₁ v₂, a.entitled s.registry q₁ p₁ = .ok (.verified v₁) →
      a.entitled s.registry q₂ p₂ = .ok (.verified v₂) →
        ¬ (q₁.machineId = q₂.machineId ∧ v₁.identity = v₂.identity)) (fresh : SessionToken) :
    a.landing s₁.registry q₂ p₂ s.now fresh = a.landing s.registry q₂ p₂ s.now fresh := by
  refine Authority.landing_eq hverifier h.settles.bindings ?_ ?_
  · exact fun b hb => htokens b.token (List.mem_map_of_mem hb)
  · intro v₂ hentitled₂ b hb
    obtain ⟨v₁, hentitled₁, rfl⟩ := exists_of_mem_made hb
    exact hdevices v₁ v₂ hentitled₁ hentitled₂

end Second

section Exchange

variable (h : Stages a s q₁ p₁ q₂ p₂ x s₁ t₁ t₂) (h' : Stages a s q₂ p₂ q₁ p₁ y s₂ u₂ u₁)
  (heq : ∀ fresh, a.landing s₁.registry q₂ p₂ s.now fresh = a.landing s.registry q₂ p₂ s.now fresh)
  (heq' : ∀ fresh, a.landing s₂.registry q₁ p₁ s.now fresh = a.landing s.registry q₁ p₁ s.now fresh)
include h h' heq heq'

/-- The tokens that come up in the one order are renamed to those that come up in the other. -/
lemma exists_renaming : ∃ σ : Equiv.Perm SessionToken,
    (∀ t, σ t ≠ t → Succession.Drawn s x y t) ∧ (∀ t, s.registry.IsLive t → σ t = t) ∧
      a.landing s.registry q₁ p₁ s.now u₁ = (a.landing s.registry q₁ p₁ s.now t₁).renamed σ ∧
        a.landing s.registry q₂ p₂ s.now u₂ = (a.landing s.registry q₂ p₂ s.now t₂).renamed σ := by
  obtain ⟨hnodup, hdrawn⟩ := h.drawn
  obtain ⟨hnodup', hdrawn'⟩ := h'.drawn
  rw [heq] at hnodup hdrawn
  rw [heq'] at hnodup' hdrawn'
  have hlength₁ : (a.landing s.registry q₁ p₁ s.now t₁).drawn.length =
      (a.landing s.registry q₁ p₁ s.now u₁).drawn.length := a.length_drawn t₁ u₁
  have hlength₂ : (a.landing s.registry q₂ p₂ s.now t₂).drawn.length =
      (a.landing s.registry q₂ p₂ s.now u₂).drawn.length := a.length_drawn t₂ u₂
  obtain ⟨σ, hmap, hfixed⟩ := exists_perm_map_eq hnodup (List.nodup_append_comm.mp hnodup')
    (by rw [List.length_append, List.length_append, hlength₁, hlength₂])
  have hlive : ∀ t, s.registry.IsLive t → σ t = t := by
    intro t ht
    refine hfixed t (fun hmem => (hdrawn t hmem).1 ht) fun hmem => ?_
    exact (hdrawn' t (List.mem_append.mpr (List.mem_append.mp hmem).symm)).1 ht
  rw [List.map_append] at hmap
  obtain ⟨hmap₁, hmap₂⟩ := List.append_inj hmap (by rw [List.length_map, hlength₁])
  refine ⟨σ, ?_, hlive, landing_renamed hlive hmap₁, landing_renamed hlive hmap₂⟩
  intro t ht
  refine ⟨fun hold => ht (hlive t hold), ?_⟩
  by_contra hdead
  rw [not_or] at hdead
  refine ht (hfixed t (fun hmem => hdead.1 (hdrawn t hmem).2) fun hmem => hdead.2 ?_)
  exact (hdrawn' t (List.mem_append.mpr (List.mem_append.mp hmem).symm)).2

/-- **Two joins of different connections and devices come to the same in either order.** -/
lemma exists_sameUpTo (hpeers : p₁ ≠ p₂)
    (hdevices : ∀ b₁ b₂, (a.landing s.registry q₁ p₁ s.now t₁).seat? = some b₁ →
      (a.landing s.registry q₂ p₂ s.now t₂).seat? = some b₂ →
        (b₁.machineId, b₁.identity) ≠ (b₂.machineId, b₂.identity)) :
    ∃ σ, Succession.SameUpTo s σ x y := by
  obtain ⟨σ, hdrawn, hlive, hl₁, hl₂⟩ := exists_renaming h h' heq heq'
  obtain ⟨hsettles₁, hsettles₂, hfirst, hsecond, -, -⟩ := h
  obtain ⟨hsettles₂', hsettles₁', hfirst', hsecond', -, -⟩ := h'
  rw [heq] at hsettles₂ hsecond
  rw [heq', hl₁] at hsettles₁' hsecond'
  rw [hl₂] at hsettles₂' hfirst'
  generalize a.landing s.registry q₁ p₁ s.now t₁ = l₁ at *
  generalize a.landing s.registry q₂ p₂ s.now t₂ = l₂ at *
  refine ⟨σ, ?_⟩
  constructor
  case drawn => exact hdrawn
  case first => exact ⟨_, hfirst, by rw [hsecond', Join.Landing.result_renamed]⟩
  case second => exact ⟨_, hsecond, by rw [hfirst', Join.Landing.result_renamed]⟩
  case sessions =>
    have hturned₂ := hsettles₂.turned
    have hturned₂' := hsettles₂'.turned
    have hturned₁' := hsettles₁'.turned
    rw [hsettles₁.now] at hturned₂
    rw [Join.Landing.leave_renamed, Join.Landing.map_seat?_renamed] at hturned₂'
    rw [hsettles₂'.now, Join.Landing.leave_renamed, Join.Landing.map_seat?_renamed] at hturned₁'
    -- Neither join takes the connection of the other, and they do not share a session.
    refine Registry.perm_of_get? (hsettles₁.turned.commute hturned₂ hturned₂' hturned₁'
      (Join.Landing.leave_comm l₁ l₂) ?_ ?_ ?_ hlive)
    · intro z hz
      obtain ⟨b, -, rfl⟩ := Option.map_eq_some_iff.mp hz
      exact l₂.leave_of_ne fun heq => hpeers (Option.some.inj heq)
    · intro z hz
      obtain ⟨b, -, rfl⟩ := Option.map_eq_some_iff.mp hz
      exact l₁.leave_of_ne fun heq => hpeers (Option.some.inj heq).symm
    · intro z z' hz hz'
      obtain ⟨b, hb, rfl⟩ := Option.map_eq_some_iff.mp hz
      obtain ⟨b', hb', rfl⟩ := Option.map_eq_some_iff.mp hz'
      exact hsettles₁.token_ne hsettles₂ hb hb' (hdevices b b' hb hb')
  case sink => rw [hsettles₁'.sink, hsettles₂'.sink, hsettles₂.sink, hsettles₁.sink]
  case events =>
    refine ⟨_, _, hsettles₁.events_trans hsettles₂, hsettles₂'.events_trans hsettles₁', ?_⟩
    rw [s.map_reported_renamed, List.map_append, ← Join.Landing.news_renamed,
      ← Join.Landing.news_renamed]
    exact List.perm_append_comm.flatMap_right s.reported

end Exchange

end Stages

variable {s : State η} {q₁ q₂ : JoinRequest} {p₁ p₂ : PeerAddress}

/-- A join that is verified is let in with the identity that the verifier names. -/
lemma exists_result_of_verified {v : Verified} (h : a.entitled r q requester = .ok (.verified v)) :
    ∃ t, (a.landing r q requester now fresh).result = .ok ⟨v.identity, t⟩ := by
  rw [landing, h]
  exact Join.Grant.exists_result_verified r q now fresh v

/-- **Independent joins commute.**  In the other order tokens may be drawn in another way. -/
theorem joins_commute (draw : Nat → Drawing) (hpeers : p₁ ≠ p₂)
    (hverifier : a.verifier.IgnoresSession)
    (hdevices : ∀ r₁ r₂,
      (a.inTurn s (.join q₁ p₁) (.join q₂ p₂)).first = .answered (.join (.ok r₁)) →
        (a.inTurn s (.join q₁ p₁) (.join q₂ p₂)).second = .answered (.join (.ok r₂)) →
          (q₁.machineId, r₁.identity) ≠ (q₂.machineId, r₂.identity))
    (hpresented : ∀ t, q₁.Presents t ∨ q₂.Presents t →
      ¬ Succession.Drawn s (a.inTurn s (.join q₁ p₁) (.join q₂ p₂))
        ((a.redrawn draw).inTurn s (.join q₂ p₂) (.join q₁ p₁)) t) :
    ∃ σ, Succession.SameUpTo s σ (a.inTurn s (.join q₁ p₁) (.join q₂ p₂))
      ((a.redrawn draw).inTurn s (.join q₂ p₂) (.join q₁ p₁)) := by
  have h := a.stages a.draw s q₁ p₁ q₂ p₂
  have h' := a.stages draw s q₂ p₂ q₁ p₁
  have htokens : ∀ t ∈ (a.landing s.registry q₁ p₁ s.now (a.nextToken s)).drawn,
      ¬ q₂.Presents t := by
    intro t ht hpresents
    obtain ⟨hnew, hlive⟩ := h.drawn.2 t (List.mem_append_left _ ht)
    exact hpresented t (.inr hpresents) ⟨hnew, .inl hlive⟩
  have htokens' : ∀ t ∈ (a.landing s.registry q₂ p₂ s.now ((a.redrawn draw).nextToken s)).drawn,
      ¬ q₁.Presents t := by
    intro t ht hpresents
    obtain ⟨hnew, hlive⟩ := h'.drawn.2 t (List.mem_append_left _ ht)
    exact hpresented t (.inl hpresents) ⟨hnew, .inr hlive⟩
  have hdevices' : ∀ v₁ v₂, a.entitled s.registry q₁ p₁ = .ok (.verified v₁) →
      a.entitled s.registry q₂ p₂ = .ok (.verified v₂) →
        ¬ (q₁.machineId = q₂.machineId ∧ v₁.identity = v₂.identity) := by
    rintro v₁ v₂ hentitled₁ hentitled₂ ⟨hmachine, hidentity⟩
    rw [← h.entitled_eq hverifier htokens] at hentitled₂
    obtain ⟨t₁, hresult₁⟩ := exists_result_of_verified hentitled₁
    obtain ⟨t₂, hresult₂⟩ := exists_result_of_verified hentitled₂
    have hfirst := h.first
    have hsecond := h.second
    rw [hresult₁] at hfirst
    rw [hresult₂] at hsecond
    exact hdevices _ _ hfirst hsecond (Prod.ext hmachine hidentity)
  have heq := h.landing_eq hverifier htokens hdevices'
  have heq' := h'.landing_eq hverifier htokens' fun v₂ v₁ hentitled₂ hentitled₁ hsame =>
    hdevices' v₁ v₂ hentitled₁ hentitled₂ ⟨hsame.1.symm, hsame.2.symm⟩
  refine h.exists_sameUpTo h' heq heq' hpeers fun b₁ b₂ hb₁ hb₂ => ?_
  obtain ⟨hmachine₁, hresult₁⟩ := machineId_of_seat? hb₁
  obtain ⟨hmachine₂, hresult₂⟩ := machineId_of_seat? hb₂
  have hfirst := h.first
  have hsecond := h.second
  rw [hresult₁] at hfirst
  rw [heq, hresult₂] at hsecond
  rw [hmachine₁, hmachine₂]
  exact hdevices _ _ hfirst hsecond

/-- Whoever asks has the name of their machine. -/
def named : Authority Unit :=
  { Authority.sample .reverify with
    verifier := ⟨.reverify, fun context => .ok (.plain context.request.machineId), fun _ => none⟩ }

/-- The desk has a session, which is used by a wire. -/
def deskOnWire : State Unit :=
  (named.perform (.initial 0 (some ⟨"main", false⟩) ()) (.join (.plain "desk" "room") ⟨"wire"⟩)).1

/-- The lamp comes by the wire of the desk, and the desk comes back by a cable. -/
theorem rewired_commute :
    deskOnWire.registry.Uses ⟨"wire"⟩ (.ofNumber 0) ∧
      (∃ σ, Succession.SameUpTo deskOnWire σ
        (named.inTurn deskOnWire (.join (.plain "lamp" "hall") ⟨"wire"⟩)
          (.join ((JoinRequest.plain "desk" "room").withToken (.ofNumber 0)) ⟨"cable"⟩))
        ((named.redrawn fun n => .ofFirst (.ofNumber (n + 7))).inTurn deskOnWire
          (.join ((JoinRequest.plain "desk" "room").withToken (.ofNumber 0)) ⟨"cable"⟩)
          (.join (.plain "lamp" "hall") ⟨"wire"⟩))) ∧
      (named.inTurn deskOnWire (.join (.plain "lamp" "hall") ⟨"wire"⟩)
        (.join ((JoinRequest.plain "desk" "room").withToken (.ofNumber 0))
          ⟨"cable"⟩)).state.registry.tokens = [.ofNumber 0, .ofNumber 1] ∧
      ((named.redrawn fun n => .ofFirst (.ofNumber (n + 7))).inTurn deskOnWire
        (.join ((JoinRequest.plain "desk" "room").withToken (.ofNumber 0)) ⟨"cable"⟩)
        (.join (.plain "lamp" "hall") ⟨"wire"⟩)).state.registry.tokens =
          [.ofNumber 0, .ofNumber 8] := by
  refine ⟨⟨_, List.mem_singleton_self _, rfl, rfl⟩, ?_, by decide, by decide⟩
  refine joins_commute _ (by decide) (fun _ _ _ => rfl) (fun _ _ _ _ hsame => ?_)
    fun t ht hdrawn => ?_
  · have hmachines : "lamp" ≠ "desk" := by decide
    exact hmachines (congrArg Prod.fst hsame)
  · rcases ht with ⟨ht, -⟩ | ⟨ht, -⟩
    · cases ht
    · obtain rfl : SessionToken.ofNumber 0 = t := Option.some.inj ht
      exact hdrawn.1 (by decide)

end Authority

end Admittance
