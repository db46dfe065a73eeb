import Admittance.Proofs.Connection
import Admittance.Proofs.Uniqueness

/-!
# States that differ in an order only

Two registries are alike if they have the same sessions and the same sink; the order in which the
sessions come up may be another one.  Whoever searches a registry takes the first session that
matches, so alike registries are searched with one result if no two sessions match:
`Registry.Definite` says that this is so of every device and of every connection.  Then each
operation of an authority does the same to alike registries and answers the same, except that a
removal of several sessions takes them one by one as they come up.

So what is seen of two runs is the same except for the order inside such a removal
(`Reordered`), and `Authority.enterIn_alike` shows it of the sections of calls.
-/

namespace Admittance

variable {η : Type}

/-! ## Choosing from a list -/

/-- A list with at most one element has one order. -/
lemma eq_of_perm_of_length_le_one {α : Type} {xs ys : List α} (h : xs.Perm ys)
    (hone : xs.length ≤ 1) : xs = ys := by
  match xs, hone with
  | [], _ => exact h.nil_eq
  | [x], _ => exact (List.perm_singleton.mp h.symm).symm

namespace Registry

/-- At most one session is chosen. -/
def Unique (r : Registry) (chosen : Session → Bool) : Prop :=
  ∀ x ∈ r.sessions, ∀ y ∈ r.sessions, chosen x = true → chosen y = true → x = y

/-- No search has a choice. -/
structure Definite (r : Registry) : Prop where
  device : ∀ machineId identity,
    r.Unique fun x => x.identity = identity && x.machineId = machineId
  connection : ∀ peer, r.Unique fun x => x.peer = some peer

/-- The registries have the same sessions, in whatever order, and the same sink. -/
structure Alike (r r' : Registry) : Prop where
  sessions : r.sessions.Perm r'.sessions
  sink : r.sink = r'.sink

variable {r r' : Registry}

/-- A token has one session at most. -/
lemma unique_token (r : Registry) (t : SessionToken) : r.Unique fun x => x.token = t := by
  intro x hx y hy hxt hyt
  exact session_eq hx hy ((of_decide_eq_true hxt).trans (of_decide_eq_true hyt).symm)

/-- In another order there is still one match at most. -/
lemma Unique.arranged {chosen : Session → Bool} (h : r.Unique chosen) (o : SearchOrder) (k : Nat) :
    (r.arranged o k).Unique chosen := fun x hx y hy =>
  h x (mem_arranged.mp hx) y (mem_arranged.mp hy)

/-- No session stands in a registry twice. -/
lemma nodup_sessions (r : Registry) : r.sessions.Nodup := r.tokens_nodup.of_map

namespace Alike

/-- A registry is like itself. -/
lemma refl (r : Registry) : r.Alike r := ⟨.refl _, rfl⟩

/-- Registries that are alike stay so in any two orders. -/
lemma arranged (h : r.Alike r') (o o' : SearchOrder) (k : Nat) :
    (r.arranged o k).Alike (r'.arranged o' k) :=
  ⟨((o.perm k r.sessions).trans h.sessions).trans (o'.perm k r'.sessions).symm, h.sink⟩

/-- In a registry like one with one match at most there is one match at most. -/
lemma unique (h : r.Alike r') {chosen : Session → Bool} (hone : r.Unique chosen) :
    r'.Unique chosen := fun x hx y hy =>
  hone x (h.sessions.mem_iff.mpr hx) y (h.sessions.mem_iff.mpr hy)

/-- A registry like a definite one is definite. -/
lemma definite (h : r.Alike r') (hdefinite : r.Definite) : r'.Definite :=
  ⟨fun machineId identity => h.unique (hdefinite.device machineId identity),
    fun peer => h.unique (hdefinite.connection peer)⟩

/-! ### Searching -/

/-- One session at most is found in the same way in any order. -/
lemma filter_eq (h : r.Alike r') {chosen : Session → Bool} (hone : r.Unique chosen) :
    r.sessions.filter chosen = r'.sessions.filter chosen := by
  refine eq_of_perm_of_length_le_one (h.sessions.filter chosen) ?_
  have hnodup := r.nodup_sessions.filter chosen
  match hchosen : r.sessions.filter chosen with
  | [] | [_] => simp
  | x :: y :: rest =>
    have hx : x ∈ r.sessions.filter chosen := by simp [hchosen]
    have hy : y ∈ r.sessions.filter chosen := by simp [hchosen]
    obtain ⟨hx, hxc⟩ := List.mem_filter.mp hx
    obtain ⟨hy, hyc⟩ := List.mem_filter.mp hy
    rw [hchosen, hone x hx y hy hxc hyc] at hnodup
    simp at hnodup

/-- Where there is one match at most, the order of a search does not matter. -/
lemma find?_eq (h : r.Alike r') {chosen : Session → Bool} (hone : r.Unique chosen) :
    r.sessions.find? chosen = r'.sessions.find? chosen := by
  rw [← List.head?_filter, ← List.head?_filter, h.filter_eq hone]

/-- A token is looked up with one result. -/
lemma get?_eq (h : r.Alike r') (t : SessionToken) : r.get? t = r'.get? t :=
  h.find?_eq (r.unique_token t)

/-- A device has the same sessions, for it has one at most. -/
lemma ofIdentity_eq (h : r.Alike r') (hdefinite : r.Definite) (machineId identity : String) :
    r.ofIdentity machineId identity = r'.ofIdentity machineId identity := by
  unfold ofIdentity
  rw [h.filter_eq (hdefinite.device machineId identity)]

/-- A device is searched with one result. -/
lemma findByIdentity?_eq (h : r.Alike r') (hdefinite : r.Definite) (machineId identity : String) :
    r.findByIdentity? machineId identity = r'.findByIdentity? machineId identity := by
  rw [findByIdentity?, findByIdentity?, h.ofIdentity_eq hdefinite]

/-- A connection is searched with one result. -/
lemma findByPeer?_eq (h : r.Alike r') (hdefinite : r.Definite) (peer : PeerAddress) :
    r.findByPeer? peer = r'.findByPeer? peer := by
  unfold findByPeer?
  rw [h.find?_eq (hdefinite.connection peer)]

/-- Registries that are alike have as many sessions. -/
lemma size_eq (h : r.Alike r') : r.size = r'.size := h.sessions.length_eq

/-- Registries that are alike are described by one text. -/
lemma text_eq (h : r.Alike r') : r.text = r'.text := by
  unfold text
  rw [h.size_eq, h.sink]

/-- Registries that are alike report to the same sink. -/
lemma report_eq (h : r.Alike r') (e : Event) : r.report e = r'.report e := by
  rw [report, report, h.sink]

/-- Registries that are alike say the same of a removal. -/
lemma removalNotices_eq (h : r.Alike r') (reason : RemovalReason) :
    r.removalNotices reason = r'.removalNotices reason := by
  funext x
  rw [removalNotices, removalNotices, h.report_eq]

/-- The one sink breaks down if the other one does. -/
lemma sinkIsFragile_eq (h : r.Alike r') : r.sinkIsFragile = r'.sinkIsFragile := by
  rw [sinkIsFragile, sinkIsFragile, h.sink]

end Alike

end Registry

/-! ## Drawing -/

namespace Drawing

/-- Only tokens in use are passed over. -/
lemma mem_of_lt_passOver {d : Drawing} {used : List SessionToken} {fuel i j : Nat} (hij : i ≤ j)
    (hj : j < d.passOver used fuel i) : d.token j ∈ used := by
  induction fuel generalizing i with
  | zero =>
    rw [passOver] at hj
    omega
  | succ fuel ih =>
    unfold passOver at hj
    split at hj
    · rename_i hused
      rcases Nat.lt_or_eq_of_le hij with hij | rfl
      · exact ih hij hj
      · exact hused
    · omega

/-- A token that is not in use is drawn no later than it comes up. -/
lemma collisions_le {d : Drawing} {used : List SessionToken} {i : Nat}
    (hi : d.token i ∉ used) : d.collisions used ≤ i := by
  by_contra hlt
  exact hi (mem_of_lt_passOver (Nat.zero_le i) (not_le.mp hlt))

/-- In which order the tokens in use are listed is no matter. -/
lemma collisions_congr (d : Drawing) {used used' : List SessionToken}
    (h : ∀ t, t ∈ used ↔ t ∈ used') : d.collisions used = d.collisions used' := by
  have hfirst : d.token (d.collisions used) ∉ used := d.result_not_mem used
  have hfirst' : d.token (d.collisions used') ∉ used' := d.result_not_mem used'
  refine Nat.le_antisymm (collisions_le ?_) (collisions_le ?_)
  · rwa [h]
  · rwa [← h]

end Drawing

/-! ## Operations -/

namespace Registry

variable {r r' : Registry} {α : Type}

/-- The outcomes are the same, except for the order of the sessions. -/
structure Outcome.Alike (o o' : Outcome α) : Prop where
  registry : o.registry.Alike o'.registry
  value : o.value = o'.value
  notices : o.notices = o'.notices

namespace Alike

/-- The same tokens are passed over. -/
lemma collisions_eq (h : r.Alike r') (d : Drawing) :
    d.collisions (r.sessions.map Session.token) = d.collisions (r'.sessions.map Session.token) :=
  d.collisions_congr fun _ => (h.sessions.map Session.token).mem_iff

/-- The same token is drawn. -/
lemma freshToken_eq (h : r.Alike r') (d : Drawing) : r.freshToken d = r'.freshToken d :=
  congrArg d.token (h.collisions_eq d)

/-- A session is opened in both, under one token. -/
lemma create (h : r.Alike r') (now : Instant) (d : Drawing)
    (machineId identity conferenceName : String) (properties : TextMap) :
    (r.create now d machineId identity conferenceName properties).Alike
      (r'.create now d machineId identity conferenceName properties) := by
  have htoken := h.freshToken_eq d
  refine ⟨⟨?_, h.sink⟩, ?_, ?_⟩
  · simp only [Registry.create, add, htoken]
    exact h.sessions.append_right _
  · simp only [Registry.create, htoken]
  · have hrecords : r.creationRecords d = r'.creationRecords d := by
      have hresult : d.result (r.sessions.map Session.token) =
          d.result (r'.sessions.map Session.token) := htoken
      funext machineId identity conferenceName
      simp only [creationRecords, Drawing.records, h.collisions_eq d, hresult]
    simp only [Registry.create, htoken, hrecords, h.report_eq]

/-- A connection that uses one session at most has one rival at most. -/
lemma attach (h : r.Alike r') {peer : PeerAddress} (hone : r.Unique fun x => x.peer = some peer)
    (now : Instant) (t : SessionToken) : (r.attach now t peer).Alike (r'.attach now t peer) := by
  have hrival : r.Unique (isRival t peer) := by
    intro x hx y hy hxr hyr
    simp only [isRival, Bool.and_eq_true] at hxr hyr
    exact hone x hx y hy hxr.2 hyr.2
  unfold Registry.attach
  rw [← h.get?_eq t]
  split
  · exact ⟨h, rfl, rfl⟩
  · exact ⟨⟨h.sessions.map _, h.sink⟩, rfl, by rw [h.filter_eq hrival]⟩

/-- A session is removed from both, or from none. -/
lemma destroy (h : r.Alike r') (t : SessionToken) : (r.destroy t).Alike (r'.destroy t) := by
  unfold Registry.destroy
  rw [← h.get?_eq t]
  split
  · exact ⟨h, rfl, rfl⟩
  · exact ⟨⟨h.sessions.filter _, h.sink⟩, rfl, by simp only [h.report_eq]⟩

end Alike

/-! ### Removals -/

/-- The outcomes of removing the same sessions, which may come up in another order. -/
inductive Outcome.Removed (r : Registry) (reason : RemovalReason) :
    Outcome Removal → Outcome Removal → Prop
  /-- All of them are gone, one by one. -/
  | all {q q' : Registry} (registry : q.Alike q') {gone gone' : List Session}
      (perm : gone.Perm gone') :
      Removed r reason
        ⟨q, ⟨gone.map Session.token, true⟩, gone.flatMap (r.removalNotices reason)⟩
        ⟨q', ⟨gone'.map Session.token, true⟩, gone'.flatMap (r.removalNotices reason)⟩
  /-- The removal has come to the same end. -/
  | same {o o' : Outcome Removal} (alike : o.Alike o') : Removed r reason o o'

/-- A removal takes the same sessions, unless it is cut short and had a choice. -/
lemma Alike.removeWhere (h : r.Alike r') (reason : RemovalReason) {doomed : Session → Bool}
    (hone : r.sinkIsFragile = true → r.Unique doomed) :
    Outcome.Removed r reason (r.removeWhere reason doomed) (r'.removeWhere reason doomed) := by
  unfold Registry.removeWhere
  rw [← h.sinkIsFragile_eq]
  split
  · rename_i hfragile
    rw [← h.find?_eq (hone hfragile)]
    split
    · exact .same ⟨h, rfl, rfl⟩
    · exact .same ⟨⟨h.sessions.erase _, h.sink⟩, rfl, rfl⟩
  · have hspared : (r.restrict (r.sessions.filter fun x => !doomed x) List.filter_sublist).Alike
        (r'.restrict (r'.sessions.filter fun x => !doomed x) List.filter_sublist) :=
      ⟨h.sessions.filter _, h.sink⟩
    rw [← h.removalNotices_eq]
    exact .all hspared (h.sessions.filter doomed)

namespace Outcome.Removed

variable {reason : RemovalReason} {o o' : Outcome Removal}

/-- The one removal comes to its end if the other one does. -/
lemma completed (h : Outcome.Removed r reason o o') : o.value.completed = o'.value.completed := by
  cases h with
  | all _ _ => rfl
  | same alike => rw [alike.value]

/-- Both removals take the same sessions, each in its own order. -/
lemma tokens (h : Outcome.Removed r reason o o') : o.value.tokens.Perm o'.value.tokens := by
  cases h with
  | all _ perm => exact perm.map Session.token
  | same alike => rw [alike.value]

end Outcome.Removed

end Registry

/-! ## What is seen -/

/-- What is seen of two runs is the same, except that a removal may have taken its sessions in
another order. -/
inductive Reordered : List (Instant × Notice) → List (Instant × Notice) → Prop
  | nil : Reordered [] []
  | noted {xs ys : List (Instant × Notice)} (before : Reordered xs ys)
      (more : List (Instant × Notice)) : Reordered (xs ++ more) (ys ++ more)
  /-- A sweep or a purge removes some sessions, and each removal is told of. -/
  | removed {xs ys : List (Instant × Notice)} (before : Reordered xs ys) (now : Instant)
      (r : Registry) (reason : RemovalReason) {gone gone' : List Session} (perm : gone.Perm gone') :
      Reordered (xs ++ (gone.flatMap (r.removalNotices reason)).map (now, ·))
        (ys ++ (gone'.flatMap (r.removalNotices reason)).map (now, ·))

namespace Reordered

/-- Notices are a reordering of themselves. -/
lemma refl (xs : List (Instant × Notice)) : Reordered xs xs := Reordered.nil.noted xs

/-- What no removal tells of comes in the same order. -/
lemma filter_eq {xs ys : List (Instant × Notice)} (h : Reordered xs ys)
    {chosen : Instant × Notice → Bool}
    (hother : ∀ now (r : Registry) reason x, ∀ n ∈ r.removalNotices reason x,
      chosen (now, n) = false) : xs.filter chosen = ys.filter chosen := by
  induction h with
  | nil => rfl
  | noted _ more ih => rw [List.filter_append, List.filter_append, ih]
  | removed _ now r reason _ ih =>
    have hnone : ∀ gone : List Session,
        ((gone.flatMap (r.removalNotices reason)).map fun n => (now, n)).filter chosen = [] := by
      intro gone
      rw [List.filter_eq_nil_iff]
      intro e he
      obtain ⟨n, hn, rfl⟩ := List.mem_map.mp he
      obtain ⟨x, -, hn⟩ := List.mem_flatMap.mp hn
      rw [hother now r reason x n hn]
      exact Bool.false_ne_true
    rw [List.filter_append, List.filter_append, ih, hnone, hnone]

end Reordered

/-- The states are the same, except for the order in which sessions come up and are removed. -/
structure State.Alike (s s' : State η) : Prop where
  now : s.now = s'.now
  registry : s.registry.Alike s'.registry
  drawn : s.drawn = s'.drawn
  listeners : s.listeners = s'.listeners
  host : s.host = s'.host
  trace : Reordered s.trace s'.trace

namespace State.Alike

variable {s s' : State η}

/-- States that are alike stay so if the same is noted in both. -/
lemma note (h : s.Alike s') (notices : List Notice) : (s.note notices).Alike (s'.note notices) := by
  refine ⟨h.now, h.registry, h.drawn, h.listeners, h.host, ?_⟩
  simp only [State.note, h.now]
  exact h.trace.noted _

/-- States that are alike stay so if the same is logged in both. -/
lemma log (h : s.Alike s') (record : Log.Record) : (s.log record).Alike (s'.log record) :=
  h.note _

/-- The states after an operation. -/
lemma afterOperation (h : s.Alike s') {α : Type} {o o' : Registry.Outcome α} (ho : o.Alike o') :
    (Authority.afterOperation s o).Alike (Authority.afterOperation s' o') := by
  refine ⟨h.now, ho.registry, h.drawn, h.listeners, h.host, ?_⟩
  simp only [Authority.afterOperation, State.note, h.now, ho.notices]
  exact h.trace.noted _

/-- The states after a removal. -/
lemma afterRemoval (h : s.Alike s') {r : Registry} {reason : RemovalReason}
    {o o' : Registry.Outcome Registry.Removal} (ho : Registry.Outcome.Removed r reason o o') :
    (Authority.afterOperation s o).Alike (Authority.afterOperation s' o') := by
  cases ho with
  | all registry perm =>
    refine ⟨h.now, registry, h.drawn, h.listeners, h.host, ?_⟩
    simp only [Authority.afterOperation, State.note, h.now]
    exact h.trace.removed _ r reason perm
  | same alike => exact h.afterOperation alike

end State.Alike

end Admittance
