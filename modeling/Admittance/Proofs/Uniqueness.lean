import Admittance.Proofs.Guarded

/-!
# One session for each machine and identity

Several joins of one machine and one identity may wait for their verifier at the same time, and
each of them has found no session yet.  Still there is never more than one session of both,
because a commit looks again before it opens a session.  `Run.onePerDevice` states what this comes
to: a session keeps its place until it is removed, two joins that come by sessions of one machine
and one identity come by the same session unless it was removed between their commits, and the
sink hears of exactly one creation for each period in which there is a session.
-/

namespace Admittance

variable {η : Type}

/-- A session's machine and identity. -/
def Binding.device (b : Binding) : String × String := (b.machineId, b.identity)

/-- The machines and identities of all live sessions. -/
def Registry.devices (r : Registry) : List (String × String) := r.bindings.map Binding.device

/-- The event is the creation of a session of this machine and this identity. -/
def Event.creates (device : String × String) : Event → Bool
  | .created _ identity machineId _ => (machineId, identity) = device
  | .destroyed .. => false

/-- The device of a binding is among the devices. -/
lemma Registry.device_mem {r : Registry} {b : Binding} (h : b ∈ r.bindings) :
    b.device ∈ r.devices :=
  List.mem_map_of_mem h

/-- A session that is opened brings its device. -/
lemma Registry.devices_eq_append {r r' : Registry} {b : Binding}
    (h : r'.bindings = r.bindings ++ [b]) : r'.devices = r.devices ++ [b.device] := by
  rw [devices, devices, h, List.map_append, List.map_singleton]

namespace Run

variable {ρ : Run η}

/-- The number of creations of a machine's and an identity's sessions that a sink has heard of
before the move of number `k`. -/
def createdCount (ρ : Run η) (device : String × String) (k : Nat) : Nat :=
  (ρ.world k).state.events.countP fun e => e.2.2.creates device

/-- Move `j` begins a period in which the machine and the identity have a session. -/
def Begins (ρ : Run η) (device : String × String) (j : Nat) : Prop :=
  device ∉ (ρ.registry j).devices ∧ device ∈ (ρ.registry (j + 1)).devices

instance (ρ : Run η) (device : String × String) (j : Nat) : Decidable (ρ.Begins device j) :=
  inferInstanceAs (Decidable (_ ∧ _))

/-- The number of periods that begin in the first `k` moves. -/
def periodCount (ρ : Run η) (device : String × String) (k : Nat) : Nat :=
  (List.range k).countP fun j => ρ.Begins device j

/-! ## The invariant -/

/-- A join that opens a session has found none. -/
lemma Guarded.device_not_mem (h : ρ.Guarded) {k : Nat} {b : Binding} (hopens : ρ.Opens k b) :
    b.device ∉ (ρ.registry k).devices := by
  obtain ⟨-, -, -, -, -, -, -, -, -, -, -, -, hunheld⟩ := h.opens hopens
  intro hmem
  obtain ⟨b', hb', hdevice⟩ := List.mem_map.mp hmem
  exact hunheld b' hb' ⟨congrArg Prod.fst hdevice, congrArg Prod.snd hdevice⟩

/-- **There is never more than one session of a machine and an identity.** -/
theorem Guarded.devices_nodup (h : ρ.Guarded) (k : Nat) : (ρ.registry k).devices.Nodup := by
  induction k with
  | zero =>
    have hnone : (ρ.registry 0).bindings = [] := congrArg (List.map Session.binding) h.empty
    rw [Registry.devices, hnone]
    exact List.nodup_nil
  | succ k ih =>
    cases (ρ.effect k).shift with
    | shrunk bindings _ _ => exact (bindings.map Binding.device).nodup ih
    | opened b hpermitted _ bindings _ _ _ _ =>
      have hnew : b.device ∉ (ρ.registry k).devices := h.device_not_mem hpermitted
      have hdevices : (ρ.registry (k + 1)).devices = (ρ.registry k).devices ++ [b.device] :=
        Registry.devices_eq_append bindings
      rw [hdevices]
      exact List.nodup_append.mpr ⟨ih, by simp, fun d hd d' hd' heq =>
        hnew (List.mem_singleton.mp hd' ▸ heq ▸ hd)⟩

/-- At any one time a machine and an identity have one binding. -/
lemma Guarded.binding_eq (h : ρ.Guarded) {k : Nat} {b b' : Binding}
    (hb : b ∈ (ρ.registry k).bindings) (hb' : b' ∈ (ρ.registry k).bindings)
    (hdevice : b.device = b'.device) : b = b' :=
  List.inj_on_of_nodup_map (h.devices_nodup k) hb hb' hdevice

/-- A machine and an identity that keep having a session keep the same one. -/
lemma Guarded.binding_eq_succ (h : ρ.Guarded) {k : Nat} {b b' : Binding}
    (hb : b ∈ (ρ.registry k).bindings) (hb' : b' ∈ (ρ.registry (k + 1)).bindings)
    (hdevice : b.device = b'.device) : b' = b := by
  rcases mem_bindings_succ hb' with hold | ⟨hopens, -⟩
  · exact h.binding_eq hold hb hdevice.symm
  · exact absurd (hdevice ▸ Registry.device_mem hb) (h.device_not_mem hopens)

/-! ## What the sink hears -/

/-- A removal creates nothing. -/
lemma countP_creates_of_removals {device : String × String} {r : Registry}
    {more : List (Instant × String × Event)}
    (h : ∀ e ∈ more, ∃ x ∈ r.sessions, ∃ reason, e.2.2 = Event.removal x reason) :
    more.countP (fun e => e.2.2.creates device) = 0 := by
  rw [List.countP_eq_zero]
  intro e he
  obtain ⟨x, -, reason, hremoval⟩ := h e he
  rw [hremoval]
  exact Bool.false_ne_true

/-- One move's share in the creations that the sink hears of. -/
lemma Guarded.createdCount_succ (h : ρ.Guarded) (hsink : ρ.start.registry.sink ≠ none)
    (device : String × String) (k : Nat) :
    ρ.createdCount device (k + 1) =
      ρ.createdCount device k + if ρ.Begins device k then 1 else 0 := by
  cases (ρ.effect k).shift with
  | shrunk bindings _ events =>
    obtain ⟨more, hevents, hremovals⟩ := events
    have hnot : ¬ ρ.Begins device k := by
      rintro ⟨hbefore, hafter⟩
      exact hbefore ((bindings.map Binding.device).subset hafter)
    rw [createdCount, hevents, List.countP_append, countP_creates_of_removals hremovals,
      if_neg hnot]
    rfl
  | opened b hpermitted properties bindings _ _ _ events =>
    obtain ⟨sink, hsome⟩ := Option.ne_none_iff_exists'.mp hsink
    have hreported : (ρ.world k).state.reported (.created b.token b.identity b.machineId properties)
        = [((ρ.world k).state.now, sink.name,
          .created b.token b.identity b.machineId properties)] := by
      have hnow : (ρ.world k).state.registry.sink = some sink := (h.sink_eq k).trans hsome
      rw [State.reported, hnow]
    have hdevices : (ρ.registry (k + 1)).devices = (ρ.registry k).devices ++ [b.device] :=
      Registry.devices_eq_append bindings
    have hnew : b.device ∉ (ρ.registry k).devices := h.device_not_mem hpermitted
    have hbegins : ρ.Begins device k ↔ b.device = device := by
      rw [Begins, hdevices, List.mem_append, List.mem_singleton]
      constructor
      · rintro ⟨hbefore, hafter | hafter⟩
        · exact absurd hafter hbefore
        · exact hafter.symm
      · rintro rfl
        exact ⟨hnew, .inr rfl⟩
    rw [createdCount, events, hreported, List.countP_append, List.countP_singleton]
    simp only [Event.creates, hbegins, Binding.device, decide_eq_true_eq]
    rfl

/-- Each period begins with one creation, and there are no other ones. -/
lemma Guarded.createdCount_eq (h : ρ.Guarded) (hsink : ρ.start.registry.sink ≠ none)
    (device : String × String) (k : Nat) :
    ρ.createdCount device k = ρ.createdCount device 0 + ρ.periodCount device k := by
  induction k with
  | zero => rfl
  | succ k ih =>
    have hperiods : ρ.periodCount device (k + 1) =
        ρ.periodCount device k + if ρ.Begins device k then 1 else 0 := by
      rw [periodCount, List.range_succ, List.countP_append, List.countP_singleton]
      simp only [decide_eq_true_eq]
      rfl
    rw [h.createdCount_succ hsink, ih, hperiods, Nat.add_assoc]

/-! ## Joins of one machine and one identity -/

/-- Move `k` is a join that is answered with the session of this binding. -/
def Gives (ρ : Run η) (k : Nat) (b : Binding) : Prop :=
  ∃ n q requester, ρ.Joins k n q requester ⟨b.identity, b.token⟩ ∧
    b ∈ (ρ.registry (k + 1)).bindings

/-- Two joins are given one session of a machine and an identity, unless the first one is removed
between their commits. -/
lemma Guarded.token_eq_of_gives (hguarded : ρ.Guarded) {j k : Nat}
    {b b' : Binding} (hjk : j < k) (hb : ρ.Gives j b) (hb' : ρ.Gives k b')
    (hdevice : b.device = b'.device) (hstays : ¬ ρ.Removes (j + 1) k b.token) :
    b.token = b'.token := by
  obtain ⟨-, -, -, -, hmem⟩ := hb
  obtain ⟨n, q, requester, hjoins, hmem'⟩ := hb'
  obtain ⟨g, hcommits, -⟩ := hjoins.committed
  have hkept : b ∈ (ρ.registry k).bindings := mem_bindings_of_not_removes hjk hmem hstays
  have hafter : b ∈ (ρ.registry (k + 1)).bindings := hcommits.mem_bindings_succ hkept
  exact congrArg Binding.token (hguarded.binding_eq hafter hmem' hdevice)

/-- A join that presents a token is answered with that token, unless it is removed between the
pre-check and the commit. -/
lemma Guarded.token_eq_of_presented (hguarded : ρ.Guarded) {i k n : Nat}
    {q : JoinRequest} {requester : PeerAddress} {presented : Option Session} {g : Join.Grant}
    {b : Binding} {t : SessionToken} (hq : q.presentedToken = some t)
    (hgranted : ρ.Granted i k n q requester presented g) (hprovided : ρ.Provided k q g b)
    (hstays : ¬ ρ.Removes i k t) : b.token = t := by
  have hpre := hgranted.prechecked
  obtain ⟨x, hx, rfl, rfl, hmachine⟩ := hpre.exists_session hq
  have hkept : x.binding ∈ (ρ.registry k).bindings :=
    mem_bindings_of_not_removes (Nat.le_of_lt hgranted.before) (Registry.binding_mem hx) hstays
  cases hprovided with
  | kept _ _ =>
    obtain ⟨-, y, hy, htoken⟩ := hgranted.trusted
    exact (Option.some.inj hy ▸ htoken).symm
  | found v _ mem machine identity =>
    obtain ⟨-, -, hsame⟩ := hgranted.verified
    have hdevice : x.binding.device = b.device :=
      Prod.ext (hmachine.trans machine.symm) ((hsame x rfl).trans identity.symm)
    exact (congrArg Binding.token (hguarded.binding_eq hkept mem hdevice)).symm
  | opened v _ none _ _ _ =>
    obtain ⟨-, hnamed, hsame⟩ := hgranted.verified
    exact absurd ⟨hmachine, hsame x rfl⟩
      (Registry.ne_of_findByIdentity?_eq_none hpre.named hnamed none hkept)

/-- What there is of sessions of one machine and one identity. -/
structure OnePerDevice (ρ : Run η) : Prop where
  /-- There is never more than one. -/
  devices_nodup : ∀ k, (ρ.registry k).devices.Nodup
  /-- As long as there is one, it is the same. -/
  steady : ∀ k b b', b ∈ (ρ.registry k).bindings → b' ∈ (ρ.registry (k + 1)).bindings →
    b.device = b'.device → b' = b
  /-- Every successful join is given one. -/
  gives : ∀ k n q requester response, ρ.Joins k n q requester response →
    ∃ b, response = ⟨b.identity, b.token⟩ ∧ ρ.Gives k b
  /-- Two joins are given different ones only if the first one is removed in between. -/
  distinct : ∀ j k b b', j < k → ρ.Gives j b → ρ.Gives k b' → b.device = b'.device →
    b.token ≠ b'.token → ρ.Removes (j + 1) k b.token
  /-- If there is a sink, it hears of one creation for each period in which there is one. -/
  created : ρ.start.registry.sink ≠ none → ∀ device k,
    ρ.createdCount device k = ρ.createdCount device 0 + ρ.periodCount device k
  /-- A join that presents a token is given another one only if the token is removed between its
  pre-check and its commit. -/
  presented : ∀ k n q requester response t, ρ.Joins k n q requester response →
    q.presentedToken = some t → response.sessionToken ≠ t →
      ∃ i presented, ρ.PreChecked i n q requester presented ∧ ρ.Removes i k t
  /-- Where tokens are never issued twice, that means that the token is not live any more. -/
  still_live : ρ.TokensDistinct → ∀ k n q requester response t,
    ρ.Joins k n q requester response → q.presentedToken = some t → (ρ.registry k).IsLive t →
      response.sessionToken = t

/-- **One session for each machine and identity.** -/
theorem onePerDevice (hguarded : ρ.Guarded) : ρ.OnePerDevice := by
  have hpresented : ∀ k n q requester response t, ρ.Joins k n q requester response →
      q.presentedToken = some t → response.sessionToken ≠ t →
        ∃ i presented, ρ.PreChecked i n q requester presented ∧ ρ.Removes i k t := by
    intro k n q requester response t hjoins hq hne
    obtain ⟨i, presented, g, -, hgranted, b, -, rfl, hprovided⟩ := hjoins.provided
    refine ⟨i, presented, hgranted.prechecked, ?_⟩
    -- Had the session stayed, the commit would have found it.
    by_contra hstays
    exact hne (hguarded.token_eq_of_presented hq hgranted hprovided hstays)
  constructor
  case devices_nodup => exact hguarded.devices_nodup
  case presented => exact hpresented
  case steady =>
    intro k b b' hb hb' hdevice
    exact hguarded.binding_eq_succ hb hb' hdevice
  case gives =>
    intro k n q requester response hjoins
    obtain ⟨-, -, -, -, -, b, hb, rfl, -⟩ := hjoins.provided
    exact ⟨b, rfl, n, q, requester, hjoins, hb⟩
  case distinct =>
    intro j k b b' hjk hb hb' hdevice hne
    by_contra hstays
    exact hne (hguarded.token_eq_of_gives hjk hb hb' hdevice hstays)
  case created =>
    intro hsink device k
    exact hguarded.createdCount_eq hsink device k
  case still_live =>
    intro hdistinct k n q requester response t hjoins hq hlive
    by_contra hne
    obtain ⟨i, -, -, j, -, hjk, hbefore, hgone⟩ :=
      hpresented k n q requester response t hjoins hq hne
    exact hdistinct.not_isLive_of_gone (Nat.le_succ j) hjk hbefore hgone hlive

/-- Two joins of one device are with their verifier at the same time. -/
def bothVerified : Run Unit where
  authority := .sample .reverify
  start := .initial 0 (some ⟨"log", false⟩) ()
  moves := [.arrive 0 (.join (.plain "desk" "room") ⟨"wire"⟩), .enter 0 true,
    .arrive 1 (.join (.plain "desk" "room") ⟨"radio"⟩), .enter 1 true,
    .answer 0 (.ok (.plain "ann")), .answer 1 (.ok (.plain "ann")), .enter 0 true, .enter 1 true]

/-- Two joins that are verified at the same time leave one session of their device. -/
theorem bothVerified_onePerDevice :
    bothVerified.Guarded ∧ bothVerified.OnePerDevice := by
  have hguarded : bothVerified.Guarded := ⟨by decide, by decide⟩
  exact ⟨hguarded, onePerDevice hguarded⟩

end Run

end Admittance
