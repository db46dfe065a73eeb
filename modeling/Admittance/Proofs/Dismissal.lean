import Admittance.Proofs.Alike
import Admittance.Proofs.Report

/-!
# Removals in a row

A session is removed by its token, with all sessions of its conference, or with all that have been
idle for too long.  A `Dismissal` asks for one of these, and `Dismissal.Matches` says of which
sessions; whatever the registry does, it looks at the sessions one by one, so a dismissal spares or
takes a session regardless of the others.

Hence several dismissals in a row leave the sessions that none of them matches, in whatever order
they are carried out, and each of the other sessions goes with the first that matches it
(`Registry.removals_partition`).  The proofs follow the list: what its head leaves is what its tail
finds.  A dismissal whose sink breaks down does not come to its end, and nothing is said of what
would have come after it; a sink that is not fragile never breaks down.
-/

namespace Admittance

/-- A removal that is asked for. -/
inductive Dismissal
  /-- Of the session of a token. -/
  | ofToken (token : SessionToken)
  /-- Of the sessions of a conference. -/
  | ofConference (conferenceName : String)
  /-- Of the sessions that have been idle for longer than `lifetime` at `now`. -/
  | ofIdle (now : Instant) (lifetime : Duration)
  deriving DecidableEq

namespace Dismissal

/-- The session is among those that the dismissal asks for.  A session that is used later than at
that moment has not been idle at all. -/
def Matches : Dismissal → Session → Prop
  | ofToken token, x => x.token = token
  | ofConference conferenceName, x => x.conferenceName = conferenceName
  | ofIdle now lifetime, x => (lifetime.nanos : Int) < max 0 (now - x.lastActivity)

instance (d : Dismissal) (x : Session) : Decidable (d.Matches x) :=
  match d with
  | ofToken token => inferInstanceAs (Decidable (x.token = token))
  | ofConference name => inferInstanceAs (Decidable (x.conferenceName = name))
  | ofIdle now lifetime =>
    inferInstanceAs (Decidable ((lifetime.nanos : Int) < max 0 (now - x.lastActivity)))

/-- Why its sessions go. -/
def reason : Dismissal → RemovalReason
  | ofToken _ => .destroyed
  | ofConference _ => .conferenceEnded
  | ofIdle _ _ => .expired

/-- What a registry does about it. -/
def carriedOut (d : Dismissal) (r : Registry) : Registry.Outcome Registry.Removal :=
  match d with
  | ofToken token =>
    let o := r.destroy token
    ⟨o.registry, ⟨if o.value then [token] else [], true⟩, o.notices⟩
  | ofConference conferenceName => r.purge conferenceName
  | ofIdle now lifetime => r.sweep now lifetime

/-- What the log says of a session that goes. -/
def record (d : Dismissal) (x : Session) : Log.Record :=
  match d with
  | ofToken _ => .sessionDestroyed x
  | ofConference _ | ofIdle _ _ => .sessionRemoved x d.reason

/-- What is seen of a session that goes: a record, and an event with the reason, the identity and
the machine. -/
def notices (d : Dismissal) (r : Registry) (x : Session) : List Notice :=
  .record (d.record x) :: r.report (Event.removal x d.reason)

/-- The first of the dismissals that matches a session, by its place in the list. -/
def first? (ds : List Dismissal) (x : Session) : Option Nat := ds.findIdx? fun d => d.Matches x

variable {d : Dismissal} {ds : List Dismissal} {x : Session} {i : Nat}

/-- The head of a list is the first match of what it matches. -/
lemma first?_cons_eq_zero : first? (d :: ds) x = some 0 ↔ d.Matches x := by
  rw [first?, List.findIdx?_cons]
  by_cases hd : d.Matches x <;> simp [hd]

/-- What the head does not match has its first match in the tail. -/
lemma first?_cons_eq_succ :
    first? (d :: ds) x = some (i + 1) ↔ ¬ d.Matches x ∧ first? ds x = some i := by
  rw [first?, first?, List.findIdx?_cons]
  by_cases hd : d.Matches x <;> simp [hd]

/-- Who is idle for too long at one moment is so later. -/
lemma Matches.later {t₁ t₂ : Instant} (ht : t₁ ≤ t₂) {lifetime : Duration}
    (h : (ofIdle t₁ lifetime).Matches x) : (ofIdle t₂ lifetime).Matches x := by
  have h₁ : (lifetime.nanos : Int) < max 0 (t₁ - x.lastActivity) := h
  have hle := Int.sub_le_sub_right ht x.lastActivity
  show (lifetime.nanos : Int) < max 0 (t₂ - x.lastActivity)
  omega

/-! ## One dismissal -/

/-- A dismissal that has come to its end: the registry has taken the sessions that it matches, one
by one, and has left the others. -/
structure Served (d : Dismissal) (r : Registry) (o : Registry.Outcome Registry.Removal) : Prop where
  sessions : o.registry.sessions = r.sessions.filter fun x => ¬ d.Matches x
  sink : o.registry.sink = r.sink
  tokens : o.value.tokens = (r.sessions.filter fun x => d.Matches x).map Session.token
  notices : o.notices = (r.sessions.filter fun x => d.Matches x).flatMap (d.notices r)

/-- A removal by name always comes to its end. -/
lemma served_ofToken (token : SessionToken) (r : Registry) :
    (ofToken token).Served r ((ofToken token).carriedOut r) := by
  constructor
  · simp only [carriedOut, Registry.destroy_eq]
    rfl
  · exact r.sink_destroy token
  · exact (r.map_token_filter token).symm
  · simp only [carriedOut, Registry.destroy_eq]
    rfl

/-- Removals without a name are all made in one way. -/
lemma served_of_removeWhere {d : Dismissal} {r : Registry} {doomed : Session → Bool}
    (hdoomed : ∀ x, doomed x = true ↔ d.Matches x)
    (hrecord : ∀ x, d.record x = .sessionRemoved x d.reason)
    (h : (r.removeWhere d.reason doomed).value.completed = true) :
    d.Served r (r.removeWhere d.reason doomed) := by
  have hmatches : doomed = fun x => decide (d.Matches x) := by
    funext x
    exact Bool.eq_iff_iff.mpr ((hdoomed x).trans decide_eq_true_iff.symm)
  have hnotices : r.removalNotices d.reason = d.notices r := by
    funext x
    rw [Registry.removalNotices, notices, hrecord]
  rw [Registry.removeWhere_of_completed h, hmatches, hnotices]
  constructor
  · simp only [Registry.restrict, decide_not]
  · rfl
  · rfl
  · rfl

/-- **A dismissal that comes to its end** takes the sessions that it matches. -/
lemma served {d : Dismissal} {r : Registry} (h : (d.carriedOut r).value.completed = true) :
    d.Served r (d.carriedOut r) := by
  cases d with
  | ofToken token => exact served_ofToken token r
  | ofConference name =>
    refine served_of_removeWhere (d := ofConference name) (fun x => ?_) (fun _ => rfl) h
    exact decide_eq_true_iff
  | ofIdle now lifetime =>
    refine served_of_removeWhere (d := ofIdle now lifetime) (fun x => ?_) (fun _ => rfl) h
    show decide (lifetime.nanos < (now - x.lastActivity).toNat) = true ↔
      (lifetime.nanos : Int) < max 0 (now - x.lastActivity)
    rw [decide_eq_true_iff]
    omega

/-- Nothing but a fragile sink keeps a dismissal from its end. -/
lemma completed_of_not_fragile (d : Dismissal) {r : Registry} (h : r.sinkIsFragile = false) :
    (d.carriedOut r).value.completed = true := by
  by_contra hfailed
  rw [Bool.not_eq_true] at hfailed
  cases d with
  | ofToken token => cases hfailed
  | ofConference | ofIdle =>
    rw [Registry.sinkIsFragile_of_not_completed hfailed] at h
    cases h

end Dismissal

/-! ## Dismissals in a row -/

namespace Registry

variable {r : Registry} {o : SearchOrder} {k : Nat} {d : Dismissal} {ds : List Dismissal}

/-- What comes of each dismissal in turn.  The sessions may come up in another order each time. -/
def outcomes (o : SearchOrder) : Nat → List Dismissal → Registry → List (Outcome Removal)
  | _, [], _ => []
  | k, d :: ds, r =>
    let first := d.carriedOut (r.arranged o k)
    first :: outcomes o (k + 1) ds first.registry

/-- What all of the dismissals leave. -/
def leftAfter (o : SearchOrder) : Nat → List Dismissal → Registry → Registry
  | _, [], r => r
  | k, d :: ds, r => leftAfter o (k + 1) ds (d.carriedOut (r.arranged o k)).registry

/-- The sessions that the dismissals take, one after the other. -/
def taken (r : Registry) (o : SearchOrder) (k : Nat) (ds : List Dismissal) : List SessionToken :=
  (r.outcomes o k ds).flatMap fun outcome => outcome.value.tokens

/-- Every one of the dismissals comes to its end. -/
def Serves (r : Registry) (o : SearchOrder) (k : Nat) (ds : List Dismissal) : Prop :=
  ∀ outcome ∈ r.outcomes o k ds, outcome.value.completed = true

/-- A list is carried out if its head is, and then its tail. -/
lemma serves_cons : r.Serves o k (d :: ds) ↔
    (d.carriedOut (r.arranged o k)).value.completed = true ∧
      (d.carriedOut (r.arranged o k)).registry.Serves o (k + 1) ds :=
  List.forall_mem_cons

/-- A sink that is not fragile never breaks down. -/
lemma serves_of_not_fragile (h : r.sinkIsFragile = false) : r.Serves o k ds := by
  induction ds generalizing r k with
  | nil =>
    intro outcome houtcome
    cases houtcome
  | cons d ds ih =>
    have hfirst : (d.carriedOut (r.arranged o k)).value.completed = true :=
      d.completed_of_not_fragile h
    have hsink : (d.carriedOut (r.arranged o k)).registry.sink = r.sink :=
      (Dismissal.served hfirst).sink
    refine serves_cons.mpr ⟨hfirst, ih ?_⟩
    rw [sinkIsFragile, hsink]
    exact h

/-- What the second dismissal finds is what the first has left. -/
lemma filter_carriedOut (h : (d.carriedOut (r.arranged o k)).value.completed = true)
    (chosen : Session → Bool) :
    ((d.carriedOut (r.arranged o k)).registry.sessions.filter chosen).Perm
      (r.sessions.filter fun x => chosen x && decide (¬ d.Matches x)) := by
  rw [(Dismissal.served h).sessions, List.filter_filter]
  exact (o.perm k r.sessions).filter _

/-- Dismissals in a row leave the sessions that none of them matches. -/
lemma sessions_leftAfter (h : r.Serves o k ds) :
    (r.leftAfter o k ds).sessions.Perm (r.sessions.filter fun x => ∀ d ∈ ds, ¬ d.Matches x) := by
  induction ds generalizing r k with
  | nil =>
    have hall : (r.sessions.filter fun x => ∀ d ∈ ([] : List Dismissal), ¬ d.Matches x) =
        r.sessions := List.filter_eq_self.mpr (by simp)
    rw [hall]
    exact .refl _
  | cons d ds ih =>
    obtain ⟨hfirst, hrest⟩ := serves_cons.mp h
    refine (ih hrest).trans ((filter_carriedOut hfirst _).trans (.of_eq ?_))
    refine List.filter_congr fun x _ => ?_
    rw [← Bool.decide_and]
    refine decide_eq_decide.mpr ?_
    rw [List.forall_mem_cons]
    exact and_comm

/-- Each of several dismissals takes the sessions that it is the first to match. -/
lemma exists_taken (h : r.Serves o k ds) {i : Nat} (hd : ds[i]? = some d) :
    ∃ outcome, ∃ gone : List Session, (r.outcomes o k ds)[i]? = some outcome ∧
      gone.Perm (r.sessions.filter fun x => Dismissal.first? ds x = some i) ∧
      outcome.value.tokens = gone.map Session.token ∧
      outcome.notices = gone.flatMap (d.notices r) := by
  induction ds generalizing r k i with
  | nil => cases hd
  | cons e ds ih =>
    obtain ⟨hfirst, hrest⟩ := serves_cons.mp h
    have hserved := Dismissal.served hfirst
    cases i with
    | zero =>
      obtain rfl : e = d := Option.some.inj hd
      refine ⟨_, _, rfl, ?_, hserved.tokens, hserved.notices⟩
      refine ((o.perm k r.sessions).filter _).trans (.of_eq (List.filter_congr fun x _ => ?_))
      exact decide_eq_decide.mpr Dismissal.first?_cons_eq_zero.symm
    | succ i =>
      obtain ⟨outcome, gone, houtcome, hgone, htokens, hnotices⟩ := ih hrest hd
      have hsame : d.notices (e.carriedOut (r.arranged o k)).registry = d.notices r := by
        funext x
        rw [Dismissal.notices, Dismissal.notices, report, report, hserved.sink]
        rfl
      refine ⟨outcome, gone, houtcome, ?_, htokens, hsame ▸ hnotices⟩
      refine hgone.trans ((filter_carriedOut hfirst _).trans (.of_eq ?_))
      refine List.filter_congr fun x _ => ?_
      rw [← Bool.decide_and, decide_eq_decide, Dismissal.first?_cons_eq_succ]
      exact and_comm

/-- Together they take every session once that one of them matches. -/
lemma taken_perm (h : r.Serves o k ds) :
    (r.taken o k ds).Perm
      ((r.sessions.filter fun x => ∃ d ∈ ds, d.Matches x).map Session.token) := by
  induction ds generalizing r k with
  | nil =>
    have hnone : (r.sessions.filter fun x => ∃ d ∈ ([] : List Dismissal), d.Matches x) = [] :=
      List.filter_eq_nil_iff.mpr (by simp)
    rw [hnone]
    exact .refl _
  | cons d ds ih =>
    obtain ⟨hfirst, hrest⟩ := serves_cons.mp h
    have hhead : ((d.carriedOut (r.arranged o k)).value.tokens).Perm
        ((r.sessions.filter fun x => d.Matches x).map Session.token) := by
      rw [(Dismissal.served hfirst).tokens]
      exact ((o.perm k r.sessions).filter _).map Session.token
    have htail := (ih hrest).trans ((filter_carriedOut hfirst _).map Session.token)
    refine (hhead.append htail).trans ?_
    rw [← List.map_append]
    refine List.Perm.map Session.token ?_
    -- Those that the head matches and those that only the tail matches are all that any matches.
    refine .trans (.of_eq ?_) (List.filter_append_perm (fun x => d.Matches x) _)
    rw [List.filter_filter, List.filter_filter]
    congr 1
    · refine List.filter_congr fun x _ => ?_
      by_cases hd : d.Matches x <;> simp [hd]
    · refine List.filter_congr fun x _ => ?_
      by_cases hd : d.Matches x <;> simp [hd]

/-- No session is taken twice. -/
lemma nodup_taken (h : r.Serves o k ds) : (r.taken o k ds).Nodup := by
  refine (taken_perm h).nodup_iff.mpr ?_
  exact (List.filter_sublist.map Session.token).nodup r.tokens_nodup

/-- Dismissals that match the same sessions leave the same ones. -/
lemma leftAfter_perm {o' : SearchOrder} {k' : Nat} {ds' : List Dismissal} (h : r.Serves o k ds)
    (h' : r.Serves o' k' ds')
    (hsame : ∀ x, (∃ d ∈ ds, d.Matches x) ↔ ∃ d ∈ ds', d.Matches x) :
    (r.leftAfter o k ds).sessions.Perm (r.leftAfter o' k' ds').sessions := by
  refine (sessions_leftAfter h).trans (.trans (.of_eq ?_) (sessions_leftAfter h').symm)
  refine List.filter_congr fun x _ => decide_eq_decide.mpr ?_
  simpa only [not_exists, not_and] using not_congr (hsame x)

/-- Dismissals that match the same sessions take the same ones. -/
lemma taken_perm_taken {o' : SearchOrder} {k' : Nat} {ds' : List Dismissal}
    (h : r.Serves o k ds) (h' : r.Serves o' k' ds')
    (hsame : ∀ x, (∃ d ∈ ds, d.Matches x) ↔ ∃ d ∈ ds', d.Matches x) :
    (r.taken o k ds).Perm (r.taken o' k' ds') := by
  refine (taken_perm h).trans (.trans (.of_eq ?_) (taken_perm h').symm)
  exact congrArg (List.map _) (List.filter_congr fun x _ => decide_eq_decide.mpr (hsame x))

/-- What becomes of the sessions of a registry when they are dismissed. -/
structure RemovalsPartition (r : Registry) : Prop where
  /-- Every dismissal comes to its end, unless the sink is fragile. -/
  ends : r.sinkIsFragile = false → ∀ o ds, r.Serves o 0 ds
  /-- The sessions that no dismissal matches are left as they were, and no others. -/
  left : ∀ o ds, r.Serves o 0 ds → (r.leftAfter o 0 ds).sessions.Perm
    (r.sessions.filter fun x => ∀ d ∈ ds, ¬ d.Matches x)
  /-- The same sessions are left in whatever order the dismissals are carried out. -/
  unordered : ∀ o o' ds ds', ds.Perm ds' → r.Serves o 0 ds → r.Serves o' 0 ds' →
    (r.leftAfter o 0 ds).sessions.Perm (r.leftAfter o' 0 ds').sessions
  /-- Each dismissal takes the sessions that it is the first to match, and reports each of them with
  its own reason. -/
  each : ∀ o ds, r.Serves o 0 ds → ∀ i d, ds[i]? = some d →
    ∃ outcome, ∃ gone : List Session, (r.outcomes o 0 ds)[i]? = some outcome ∧
      gone.Perm (r.sessions.filter fun x => Dismissal.first? ds x = some i) ∧
      outcome.value.tokens = gone.map Session.token ∧
      outcome.notices = gone.flatMap (d.notices r)
  /-- Each session that one of them matches is taken by one of them. -/
  once : ∀ o ds, r.Serves o 0 ds → (r.taken o 0 ds).Nodup ∧
    (r.taken o 0 ds).Perm
      ((r.sessions.filter fun x => ∃ d ∈ ds, d.Matches x).map Session.token)
  /-- A sweep makes no difference before a later one, but takes some of the sessions in its
  place. -/
  sweeps : ∀ o o' t₁ t₂ lifetime, t₁ ≤ t₂ →
    r.Serves o 0 [.ofIdle t₁ lifetime, .ofIdle t₂ lifetime] →
    r.Serves o' 0 [.ofIdle t₂ lifetime] →
    (r.leftAfter o 0 [.ofIdle t₁ lifetime, .ofIdle t₂ lifetime]).sessions.Perm
        (r.leftAfter o' 0 [.ofIdle t₂ lifetime]).sessions ∧
      ∃ first second alone,
        r.outcomes o 0 [.ofIdle t₁ lifetime, .ofIdle t₂ lifetime] = [first, second] ∧
        r.outcomes o' 0 [.ofIdle t₂ lifetime] = [alone] ∧
        first.value.tokens.Disjoint second.value.tokens ∧
        (first.value.tokens ++ second.value.tokens).Perm alone.value.tokens

/-- **Dismissals in a row** divide the sessions that one of them matches among them, and what they
leave does not depend on their order. -/
theorem removals_partition (r : Registry) : r.RemovalsPartition := by
  constructor
  case ends =>
    intro h o ds
    exact serves_of_not_fragile h
  case left =>
    intro o ds h
    exact sessions_leftAfter h
  case unordered =>
    intro o o' ds ds' hperm h h'
    refine leftAfter_perm h h' fun x => ?_
    simp only [hperm.mem_iff]
  case each =>
    intro o ds h i d hd
    exact exists_taken h hd
  case once =>
    intro o ds h
    exact ⟨nodup_taken h, taken_perm h⟩
  case sweeps =>
    intro o o' t₁ t₂ lifetime ht h h'
    have hsame : ∀ x, (∃ d ∈ [Dismissal.ofIdle t₁ lifetime, .ofIdle t₂ lifetime], d.Matches x) ↔
        ∃ d ∈ [Dismissal.ofIdle t₂ lifetime], d.Matches x := by
      intro x
      have hlater : (Dismissal.ofIdle t₁ lifetime).Matches x →
          (Dismissal.ofIdle t₂ lifetime).Matches x := Dismissal.Matches.later ht
      simpa using hlater
    have htaken := taken_perm_taken h h' hsame
    have hnodup := nodup_taken h
    simp only [taken, outcomes, List.flatMap_cons, List.flatMap_nil, List.append_nil]
      at htaken hnodup
    refine ⟨leftAfter_perm h h' hsame, _, _, _, rfl, rfl, ?_, ?_⟩
    · exact List.disjoint_of_nodup_append hnodup
    · exact htaken

/-- Two devices that joined in two conferences. -/
def guests : Registry where
  sessions := [.opened ⟨"a"⟩ "desk" "ann" "room" 0, .opened ⟨"b"⟩ "hall" "bob" "foyer" 0]
  sink := none
  tokens_nodup := by decide

/-- Both dismissals match the session of the room, and the first one takes it. -/
example : (guests.outcomes .alternating 0 [.ofConference "room", .ofIdle 1 .zero]).map
      (fun outcome => outcome.value.tokens) = [[⟨"a"⟩], [⟨"b"⟩]] ∧
    (guests.outcomes .alternating 0 [.ofIdle 1 .zero, .ofConference "room"]).map
      (fun outcome => outcome.value.tokens) = [[⟨"b"⟩, ⟨"a"⟩], []] := by
  decide

end Registry

end Admittance
