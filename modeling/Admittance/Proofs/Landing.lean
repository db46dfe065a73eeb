import Admittance.Proofs.Decision
import Admittance.Proofs.Report

/-!
# Where a join leads

An undisturbed join is refused, or it comes to use a session that is there, or it opens one.  Which
of these it is depends on the registry through the bindings of its sessions only, and not on the
token that comes up for a new session: `Authority.landing` is computed from the bindings, and
`Authority.settles` says what each landing does.  More bindings make no difference to a join that
presents none of their tokens and has another device (`Authority.landing_eq`), if its verifier does
not look at the session that the token stands for.
-/

namespace Admittance

variable {η : Type}

/-! ## Searches among bindings -/

namespace Registry

variable {r r' : Registry} {more : List Binding}

/-- The binding of a token. -/
def bindingOf? (r : Registry) (t : SessionToken) : Option Binding :=
  r.bindings.find? (·.token = t)

/-- The binding that the search by machine and identity comes to. -/
def bindingFor? (r : Registry) (machineId identity : String) : Option Binding :=
  if machineId.isEmpty || identity.isEmpty then none
  else r.bindings.find? fun b => b.identity = identity && b.machineId = machineId

/-- A look-up comes to a binding of the list. -/
lemma map_binding_get? (r : Registry) (t : SessionToken) :
    (r.get? t).map Session.binding = r.bindingOf? t := by
  rw [bindingOf?, bindings, List.find?_map]
  rfl

/-- A search by device comes to a binding of the list. -/
lemma map_binding_findByIdentity? (r : Registry) (machineId identity : String) :
    (r.findByIdentity? machineId identity).map Session.binding =
      r.bindingFor? machineId identity := by
  unfold findByIdentity? ofIdentity bindingFor?
  split
  · rfl
  · rw [List.head?_filter, bindings, List.find?_map]
    rfl

/-- The binding of a device is among the bindings. -/
lemma mem_of_bindingFor? {machineId identity : String} {b : Binding}
    (h : r.bindingFor? machineId identity = some b) : b ∈ r.bindings := by
  unfold bindingFor? at h
  split at h
  · cases h
  · exact List.mem_of_find?_eq_some h

/-- Bindings of other tokens make no difference. -/
lemma bindingOf?_eq {t : SessionToken} (h : r'.bindings = r.bindings ++ more)
    (hother : ∀ b ∈ more, b.token ≠ t) : r'.bindingOf? t = r.bindingOf? t := by
  have hnone : more.find? (·.token = t) = none :=
    List.find?_eq_none.mpr fun b hb htoken => hother b hb (of_decide_eq_true htoken)
  rw [bindingOf?, h, List.find?_append, hnone, Option.or_none]
  rfl

/-- Bindings of other devices make no difference. -/
lemma bindingFor?_eq {machineId identity : String} (h : r'.bindings = r.bindings ++ more)
    (hother : ∀ b ∈ more, ¬ (b.machineId = machineId ∧ b.identity = identity)) :
    r'.bindingFor? machineId identity = r.bindingFor? machineId identity := by
  have hnone : more.find? (fun b => b.identity = identity && b.machineId = machineId) = none := by
    refine List.find?_eq_none.mpr fun b hb hdevice => hother b hb ?_
    rw [Bool.and_eq_true, decide_eq_true_eq, decide_eq_true_eq] at hdevice
    exact hdevice.symm
  unfold bindingFor?
  split
  · rfl
  · rw [h, List.find?_append, hnone, Option.or_none]

end Registry

/-! ## What a join is entitled to -/

/-- A verifier does not look at the session that is presented. -/
def Verifier.IgnoresSession (v : Verifier) : Prop :=
  ∀ q p x, v.verify ⟨q, p, x⟩ = v.verify ⟨q, p, none⟩

namespace Authority

/-- What entitles a join to its commit, or why it does not get there. -/
def entitled (a : Authority η) (r : Registry) (q : JoinRequest) (requester : PeerAddress) :
    Except AuthError Join.Grant :=
  if q.machineId.isEmpty then .error (Join.refuseUnnamed requester).1
  else
    match Join.precheck r q with
    | .error e => .error e.1
    | .ok presented =>
      match Join.trusted a.verifier.policy presented with
      | some g => .ok g
      | none =>
        match Join.judge requester q.machineId presented
            (a.verifier.verify ⟨q, requester, presented⟩) with
        | .error e => .error e.1
        | .ok g => .ok g

variable {a : Authority η} {r r' : Registry} {q : JoinRequest} {requester : PeerAddress}
  {g : Join.Grant}

/-- A grant that needs no verifier comes from the session of the token. -/
lemma exists_of_entitled_reuse {t : SessionToken} (h : a.entitled r q requester = .ok (.reuse t)) :
    ∃ x, r.get? t = some x ∧ x.machineId = q.machineId ∧ q.presentedToken = some t := by
  unfold entitled at h
  split at h
  · cases h
  · split at h
    · cases h
    · rename_i presented hpre
      split at h
      · rename_i g htrust
        obtain ⟨-, x, rfl, rfl⟩ := Join.trusted_eq_some.mp htrust
        obtain rfl := Join.Grant.reuse.inj (Except.ok.inj h)
        obtain ⟨u, hu, hget, hmachine⟩ := Join.precheck_eq_ok_some.mp hpre
        obtain rfl := (Registry.get?_eq_some hget).2
        exact ⟨x, hget, hmachine, hu⟩
      · split at h
        · cases h
        · rename_i hjudge
          obtain ⟨v, -, -, -, rfl⟩ := Join.judge_eq_ok.mp hjudge
          cases h

/-- What a join is entitled to depends on the binding of the token that it presents, and on nothing
else in the registry. -/
lemma entitled_eq (hverifier : a.verifier.IgnoresSession)
    (h : ∀ t, q.presentedToken = some t → r'.bindingOf? t = r.bindingOf? t) :
    a.entitled r' q requester = a.entitled r q requester := by
  cases hq : q.presentedToken with
  | none => simp only [entitled, Join.precheck, hq]
  | some t =>
    have hbinding := h t hq
    rw [← Registry.map_binding_get?, ← Registry.map_binding_get?] at hbinding
    cases hget : r.get? t with
    | none =>
      rw [hget, Option.map_none, Option.map_eq_none_iff] at hbinding
      simp only [entitled, Join.precheck, hq, Join.checkToken, hget, hbinding]
    | some x =>
      rw [hget, Option.map_some, Option.map_eq_some_iff] at hbinding
      obtain ⟨x', hget', hsame⟩ := hbinding
      have htoken : x'.token = x.token := congrArg Binding.token hsame
      have hmachine : x'.machineId = x.machineId := congrArg Binding.machineId hsame
      have hidentity : x'.identity = x.identity := congrArg Binding.identity hsame
      have hverify : a.verifier.verify ⟨q, requester, some x'⟩ =
          a.verifier.verify ⟨q, requester, some x⟩ :=
        (hverifier _ _ _).trans (hverifier _ _ _).symm
      by_cases hm : x.machineId = q.machineId
      · simp only [entitled, Join.precheck, hq, Join.checkToken, hget, hget', hmachine, if_pos hm,
          Except.map]
        cases a.verifier.policy with
        | trustToken => simp only [Join.trusted, htoken]
        | reverify => simp only [Join.trusted, Join.judge, hverify, hidentity, htoken]
      · simp only [entitled, Join.precheck, hq, Join.checkToken, hget, hget', hmachine, if_neg hm,
          Except.map]

end Authority

/-! ## Landings -/

namespace Join

/-- What a join comes to. -/
inductive Landing
  | refused (e : AuthError)
  /-- It uses a session that is there. -/
  | reused (b : Binding)
  /-- It opens a session. -/
  | opened (b : Binding) (properties : TextMap)

namespace Landing

/-- The session in use. -/
def seat? : Landing → Option Binding
  | refused _ => none
  | reused b | opened b _ => some b

/-- What is bound anew. -/
def made : Landing → List Binding
  | refused _ | reused _ => []
  | opened b _ => [b]

/-- What is reported. -/
def news : Landing → List Event
  | refused _ | reused _ => []
  | opened b properties => [b.creation properties]

/-- What the join is answered. -/
def result : Landing → JoinResult
  | refused e => .error e
  | reused b | opened b _ => .ok ⟨b.identity, b.token⟩

/-- What becomes of all other sessions. -/
def leave (requester : PeerAddress) : Landing → Session → Session
  | refused _ => id
  | reused _ | opened _ _ => Session.leftBy requester

end Landing

/-- Where a grant leads at a moment at which this token comes up for a new session. -/
def Grant.landing (r : Registry) (q : JoinRequest) (now : Instant) (fresh : SessionToken) :
    Grant → Landing
  | .reuse t =>
    match r.bindingOf? t with
    | some b => .reused b
    | none => .refused .sessionInvalid
  | .verified v =>
    match r.bindingFor? q.machineId v.identity with
    | some b => .reused b
    | none => .opened (newBinding now fresh q v) v.properties

/-- A verified join is let in with its identity. -/
lemma Grant.exists_result_verified (r : Registry) (q : JoinRequest) (now : Instant)
    (fresh : SessionToken) (v : Verified) :
    ∃ t, (landing r q now fresh (.verified v)).result = .ok ⟨v.identity, t⟩ := by
  simp only [landing, ← Registry.map_binding_findByIdentity?]
  cases hfind : r.findByIdentity? q.machineId v.identity with
  | none => exact ⟨_, rfl⟩
  | some x =>
    obtain ⟨-, -, hidentity⟩ := Registry.findByIdentity?_eq_some hfind
    exact ⟨x.token, hidentity ▸ rfl⟩

end Join

/-- The session of a binding as a connection uses it. -/
def Binding.usedBy (b : Binding) (requester : PeerAddress) (now : Instant) : Session :=
  ⟨b.token, b.machineId, b.identity, b.conferenceName, some requester, now, b.createdAt⟩

/-- A session has come to be as given, if there is one, and all others have changed in one way. -/
structure Registry.Turned (r r' : Registry) (change : Session → Session) (x? : Option Session) :
    Prop where
  self : ∀ x, x? = some x → r'.get? x.token = some x
  others : ∀ t, (∀ x, x? = some x → x.token ≠ t) → r'.get? t = (r.get? t).map change

/-- What a join changes. -/
structure Settles (s s' : State η) (requester : PeerAddress) (l : Join.Landing) : Prop where
  turned : s.registry.Turned s'.registry (l.leave requester)
    (l.seat?.map fun b => b.usedBy requester s.now)
  bindings : s'.registry.bindings = s.registry.bindings ++ l.made
  sink : s'.registry.sink = s.registry.sink
  now : s'.now = s.now
  events : s'.events = s.events ++ l.news.flatMap s.reported

namespace Settles

variable {s s' s'' : State η} {requester : PeerAddress} {l : Join.Landing}

/-- A refusal changes nothing. -/
lemma refused (h : Unchanged s s') (e : AuthError) : Settles s s' requester (.refused e) := by
  have hsilent := Silent.ofUnchanged h
  constructor
  case turned =>
    refine ⟨fun x hx => (by cases hx), fun t _ => ?_⟩
    rw [h.registry]
    exact Option.map_id'.symm
  case bindings => exact hsilent.bindings.trans (List.append_nil _).symm
  case sink => exact hsilent.sink
  case now => exact h.now
  case events => exact hsilent.events.trans (List.append_nil _).symm

/-- What has been seen before makes no difference. -/
lemma after_unchanged (h : Unchanged s s') (h' : Settles s' s'' requester l) :
    Settles s s'' requester l := by
  have hreported : s'.reported = s.reported := by
    funext e
    rw [State.reported, h.registry, h.now]
    rfl
  constructor
  case turned => exact h.now ▸ h.registry ▸ h'.turned
  case bindings => exact h.registry ▸ h'.bindings
  case sink => exact h.registry ▸ h'.sink
  case now => exact h'.now.trans h.now
  case events => exact hreported ▸ (Silent.ofUnchanged h).events ▸ h'.events

/-- The session in use is there afterwards. -/
lemma mem_bindings (h : Settles s s' requester l) {b : Binding} (hb : l.seat? = some b) :
    b ∈ s'.registry.bindings := by
  have hself := h.turned.self (b.usedBy requester s.now) (by rw [hb]; rfl)
  exact Registry.binding_mem (Registry.get?_eq_some hself).1

end Settles

namespace Registry

/-- What a connection does that comes to use a session. -/
lemma Boarded.turned {r r' : Registry} {p : PeerAddress} {x : Session} (h : Boarded r r' p x) :
    Turned r r' (Session.leftBy p) (some x) := by
  constructor
  · rintro _ ⟨⟩
    exact h.self
  · intro t ht
    exact h.others t fun heq => ht x rfl heq.symm

end Registry

namespace Authority

variable {a : Authority η} {s : State η} {q : JoinRequest} {requester : PeerAddress}
  {g : Join.Grant}

/-- A commit that finds a session uses it. -/
lemma settles_of_found {x : Session} (hx : s.registry.get? x.token = some x)
    (hseat : Join.seat s.registry s.now (a.draw s.drawn) q g =
      .ok ⟨s.registry, x.token, false, []⟩) :
    Settles s (a.enterCommit s q requester g).1 requester (.reused x.binding) ∧
      (a.enterCommit s q requester g).2 = .answered (.join (.ok ⟨x.identity, x.token⟩)) := by
  rw [a.enterCommit_of_seat_eq_ok requester hseat hx, takeSeat_self]
  have harrives := a.arrives s requester hx
  have hlive : s.registry.IsLive x.token := Registry.isLive_iff_get?.mpr ⟨x, hx⟩
  refine ⟨?_, rfl⟩
  constructor
  case turned => exact harrives.boarded.turned
  case bindings =>
    exact (Silent.attachAndAnnounce a requester hlive).bindings.trans (List.append_nil _).symm
  case sink => exact harrives.sink
  case now => rfl
  case events => exact harrives.events.trans (List.append_nil _).symm

/-- A commit that finds none opens one. -/
lemma settles_of_not_found {v : Verified}
    (hnone : s.registry.findByIdentity? q.machineId v.identity = none) :
    Settles s (a.enterCommit s q requester (.verified v)).1 requester
        (.opened (Join.newBinding s.now (a.nextToken s) q v) v.properties) ∧
      (a.enterCommit s q requester (.verified v)).2 =
        .answered (.join (.ok ⟨v.identity, a.nextToken s⟩)) := by
  set made := s.registry.create s.now (a.draw s.drawn) q.machineId v.identity q.conferenceName
    v.properties with hmade
  have hseat : Join.seat s.registry s.now (a.draw s.drawn) q (.verified v) =
      .ok ⟨made.registry, a.nextToken s, true, made.notices⟩ := by
    simp only [Join.seat, hnone]
    rfl
  have hx : made.registry.get? (a.nextToken s) =
      some (.opened (a.nextToken s) q.machineId v.identity q.conferenceName s.now) := by
    rw [hmade, Registry.get?_create]
    exact if_pos rfl
  have hlive : made.registry.IsLive (a.nextToken s) := Registry.isLive_iff_get?.mpr ⟨_, hx⟩
  obtain ⟨hevents, -⟩ := a.takeSeat_create s q.machineId v.identity q.conferenceName v.properties
  rw [a.enterCommit_of_seat_eq_ok requester hseat hx]
  set between := takeSeat s ⟨made.registry, a.nextToken s, true, made.notices⟩
  have harrives := a.arrives between requester
    (x := .opened (a.nextToken s) q.machineId v.identity q.conferenceName s.now) hx
  refine ⟨?_, rfl⟩
  constructor
  case turned =>
    -- The session was opened a moment before; no other session has been touched by that.
    refine (harrives.boarded.of_before fun t ht => ?_).turned
    show made.registry.get? t = _
    rw [hmade, Registry.get?_create]
    exact if_neg ht
  case bindings =>
    exact (Silent.attachAndAnnounce a requester hlive).bindings.trans
      (s.registry.bindings_create s.now _ q.machineId v.identity q.conferenceName v.properties)
  case sink => exact harrives.sink
  case now => rfl
  case events =>
    refine (harrives.events.trans hevents).trans ?_
    rw [Join.Landing.news, List.flatMap_singleton]
    rfl

/-- **What a commit comes to** whose token, if it needs one, is still live. -/
lemma settles_enterCommit (hlive : ∀ t, g = .reuse t → s.registry.IsLive t) :
    Settles s (a.enterCommit s q requester g).1 requester
        (g.landing s.registry q s.now (a.nextToken s)) ∧
      (a.enterCommit s q requester g).2 =
        .answered (.join (g.landing s.registry q s.now (a.nextToken s)).result) := by
  cases g with
  | reuse t =>
    obtain ⟨x, hx⟩ := Registry.isLive_iff_get?.mp (hlive t rfl)
    obtain rfl := (Registry.get?_eq_some hx).2
    have hlanding : (Join.Grant.reuse x.token).landing s.registry q s.now (a.nextToken s) =
        .reused x.binding := by
      simp only [Join.Grant.landing, ← Registry.map_binding_get?, hx, Option.map_some]
    rw [hlanding]
    exact settles_of_found hx (by simp only [Join.seat, hx])
  | verified v =>
    cases hfind : s.registry.findByIdentity? q.machineId v.identity with
    | none =>
      have hlanding : (Join.Grant.verified v).landing s.registry q s.now (a.nextToken s) =
          .opened (Join.newBinding s.now (a.nextToken s) q v) v.properties := by
        simp only [Join.Grant.landing, ← Registry.map_binding_findByIdentity?, hfind,
          Option.map_none]
      rw [hlanding]
      exact settles_of_not_found hfind
    | some x =>
      obtain ⟨hx, -, -⟩ := Registry.findByIdentity?_eq_some hfind
      have hlanding : (Join.Grant.verified v).landing s.registry q s.now (a.nextToken s) =
          .reused x.binding := by
        simp only [Join.Grant.landing, ← Registry.map_binding_findByIdentity?, hfind,
          Option.map_some]
      rw [hlanding]
      exact settles_of_found (Registry.get?_eq_some_iff.mpr ⟨hx, rfl⟩)
        (by simp only [Join.seat, hfind])

/-- Where an undisturbed join leads at a moment at which this token comes up for a new session. -/
def landing (a : Authority η) (r : Registry) (q : JoinRequest) (requester : PeerAddress)
    (now : Instant) (fresh : SessionToken) : Join.Landing :=
  match a.entitled r q requester with
  | .error e => .refused e
  | .ok g => g.landing r q now fresh

/-- **What an undisturbed join comes to.** -/
theorem settles (a : Authority η) (s : State η) (q : JoinRequest) (requester : PeerAddress) :
    Settles s (a.perform s (.join q requester)).1 requester
        (a.landing s.registry q requester s.now (a.nextToken s)) ∧
      (a.perform s (.join q requester)).2 = .answered (.join
        (a.landing s.registry q requester s.now (a.nextToken s)).result) := by
  have hends := a.ends s q requester
  generalize a.perform s (.join q requester) = reached at hends ⊢
  cases hends with
  | unnamed unnamed =>
    have hentitled : a.entitled s.registry q requester = .error (Join.refuseUnnamed requester).1 :=
      if_pos (String.isEmpty_iff.mpr unnamed)
    rw [landing, hentitled]
    exact ⟨.refused (.log s _) _, rfl⟩
  | refused named e precheck =>
    have hentitled : a.entitled s.registry q requester = .error e.1 := by
      rw [entitled, if_neg (mt String.isEmpty_iff.mp named), precheck]
    rw [landing, hentitled]
    exact ⟨.refused (.log s _) _, rfl⟩
  | trusted named x precheck policy =>
    have hentitled : a.entitled s.registry q requester = .ok (.reuse x.token) := by
      simp only [entitled, if_neg (mt String.isEmpty_iff.mp named), precheck, policy, Join.trusted]
    rw [landing, hentitled]
    refine settles_enterCommit fun t ht => ?_
    cases ht
    exact Registry.isLive_of_mem (Registry.binding_mem (Join.presents_of_precheck_eq_ok precheck).1)
  | rejected named presented precheck untrusted e judgement =>
    have hentitled : a.entitled s.registry q requester = .error e.1 := by
      simp only [entitled, if_neg (mt String.isEmpty_iff.mp named), precheck, untrusted, judgement]
    rw [landing, hentitled]
    exact ⟨.refused ((Unchanged.consult s _ _).trans (.log _ _)) _, rfl⟩
  | verified named presented precheck untrusted v judgement =>
    have hentitled : a.entitled s.registry q requester = .ok (.verified v) := by
      simp only [entitled, if_neg (mt String.isEmpty_iff.mp named), precheck, untrusted, judgement]
    rw [landing, hentitled]
    have hcommit : Settles (consult s ⟨q, requester, presented⟩ true) _ requester _ ∧ _ :=
      settles_enterCommit (a := a) (q := q) (g := .verified v) fun t ht => by cases ht
    obtain ⟨hsettles, hanswer⟩ := hcommit
    exact ⟨hsettles.after_unchanged (Unchanged.consult s _ _), hanswer⟩

/-! ### What a landing depends on -/

variable {r r' : Registry} {now : Instant} {fresh : SessionToken}

/-- A join that is let in has its own machine. -/
lemma machineId_of_seat? {b : Binding} (h : (a.landing r q requester now fresh).seat? = some b) :
    b.machineId = q.machineId ∧
      (a.landing r q requester now fresh).result = .ok ⟨b.identity, b.token⟩ := by
  have hresult : ∀ l : Join.Landing, l.seat? = some b → l.result = .ok ⟨b.identity, b.token⟩ := by
    rintro (e | b' | ⟨b', properties⟩) hb
    · cases hb
    · exact Option.some.inj hb ▸ rfl
    · exact Option.some.inj hb ▸ rfl
  refine ⟨?_, hresult _ h⟩
  unfold landing at h
  split at h
  · cases h
  · rename_i g hentitled
    cases g with
    | reuse t =>
      obtain ⟨x, hx, hmachine, -⟩ := exists_of_entitled_reuse hentitled
      simp only [Join.Grant.landing, ← Registry.map_binding_get?, hx, Option.map_some,
        Join.Landing.seat?, Option.some.injEq] at h
      exact h ▸ hmachine
    | verified v =>
      simp only [Join.Grant.landing, ← Registry.map_binding_findByIdentity?] at h
      cases hfind : r.findByIdentity? q.machineId v.identity with
      | none =>
        simp only [hfind, Option.map_none, Join.Landing.seat?, Option.some.injEq] at h
        exact h ▸ rfl
      | some x =>
        obtain ⟨-, hmachine, -⟩ := Registry.findByIdentity?_eq_some hfind
        simp only [hfind, Option.map_some, Join.Landing.seat?, Option.some.injEq] at h
        exact h ▸ hmachine

/-- **More bindings make no difference** to a join that presents none of their tokens and is of
another device. -/
lemma landing_eq {more : List Binding} (hverifier : a.verifier.IgnoresSession)
    (hbindings : r'.bindings = r.bindings ++ more) (htokens : ∀ b ∈ more, ¬ q.Presents b.token)
    (hdevices : ∀ v, a.entitled r q requester = .ok (.verified v) →
      ∀ b ∈ more, ¬ (b.machineId = q.machineId ∧ b.identity = v.identity)) :
    a.landing r' q requester now fresh = a.landing r q requester now fresh := by
  have hpresented : ∀ t, q.presentedToken = some t → r'.bindingOf? t = r.bindingOf? t := by
    intro t ht
    refine Registry.bindingOf?_eq hbindings fun b hb htoken => htokens b hb ?_
    exact JoinRequest.presents_iff.mpr (htoken ▸ ht)
  rw [landing, landing, entitled_eq hverifier hpresented]
  cases hentitled : a.entitled r q requester with
  | error e => rfl
  | ok g =>
    cases g with
    | reuse t =>
      obtain ⟨-, -, -, ht⟩ := exists_of_entitled_reuse hentitled
      simp only [Join.Grant.landing, hpresented t ht]
    | verified v =>
      simp only [Join.Grant.landing,
        Registry.bindingFor?_eq hbindings (hdevices v hentitled)]

end Authority

end Admittance
