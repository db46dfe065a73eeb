import Admittance.Proofs.Admission

/-!
# Who is told, and in which order

Listeners come and go while a host registers and removes them, and also while they are being told of
something: whoever is told may register and remove listeners, itself and those whose turn is still
to come, and may panic.  An `Audience` is a set of listeners with the state that the host's
listeners share, and a `Request` is what a host asks of it.  How listeners react is left open; it
may be another way at every notification, so that it may depend on the news.

What is registered at a moment is known from the changes so far, whoever asked for them
(`ListenerSet.Accounts`): a listener is registered if it has been added and not removed since, and
the listeners are in the order in which each of them was last added.  One change keeps this
(`ListenerSet.Accounts.change`), so all of them do (`Audience.fanOut`).  A notification goes to
those who are registered when it begins, whatever they do (`Audience.Informs`).
-/

namespace Admittance

variable {η : Type}

/-! ## Histories of changes -/

/-- A change that somebody asked for, and whether it changed anything. -/
structure Relisting where
  change : ListenerChange
  made : Bool
  deriving DecidableEq

/-- The change that a notice tells of. -/
def Notice.relisting? : Notice → Option Relisting
  | .relisted true l made => some ⟨.add l, made⟩
  | .relisted false l made => some ⟨.remove l, made⟩
  | _ => none

/-- The record in a notice. -/
def Notice.record? : Notice → Option Log.Record
  | .record entry => some entry
  | _ => none

namespace Relisting

variable {past : List Relisting} {r : Relisting} {l l' : ListenerId} {i : Nat}

/-- Change `i` adds a listener that was not there. -/
def AddsAt (past : List Relisting) (i : Nat) (l : ListenerId) : Prop :=
  past[i]? = some ⟨.add l, true⟩

/-- Change `i` removes a listener that was there. -/
def RemovesAt (past : List Relisting) (i : Nat) (l : ListenerId) : Prop :=
  past[i]? = some ⟨.remove l, true⟩

/-- The listener has been added and not been removed since. -/
def Enrolled (past : List Relisting) (l : ListenerId) : Prop :=
  ∃ i, AddsAt past i l ∧ ∀ j, i < j → ¬ RemovesAt past j l

/-- Change `i` is the last one that adds the listener. -/
def LastAddedAt (past : List Relisting) (i : Nat) (l : ListenerId) : Prop :=
  AddsAt past i l ∧ ∀ j, i < j → ¬ AddsAt past j l

/-- One more change comes behind all others. -/
lemma getElem?_snoc (past : List Relisting) (r x : Relisting) (i : Nat) :
    (past ++ [r])[i]? = some x ↔ past[i]? = some x ∨ i = past.length ∧ r = x := by
  rcases Nat.lt_trichotomy i past.length with hlt | rfl | hgt
  · rw [List.getElem?_append_left hlt]
    simp only [Nat.ne_of_lt hlt, false_and, or_false]
  · rw [List.getElem?_concat_length, List.getElem?_eq_none (Nat.le_refl _)]
    simp
  · have hlong : (past ++ [r]).length ≤ i := by
      rw [List.length_append, List.length_singleton]
      omega
    rw [List.getElem?_eq_none hlong, List.getElem?_eq_none (Nat.le_of_lt hgt)]
    simp only [Nat.ne_of_gt hgt, false_and, or_false]

/-- What was asked for is in the past. -/
lemma lt_length_of_addsAt (h : AddsAt past i l) : i < past.length :=
  (List.getElem?_eq_some_iff.mp h).1

/-- Without a past nobody is registered. -/
lemma enrolled_nil : ¬ Enrolled [] l := by
  rintro ⟨i, hadds, -⟩
  cases hadds

/-- What one more change means for a listener: it is added, or it stays and is not removed. -/
lemma enrolled_snoc : Enrolled (past ++ [r]) l ↔
    r = ⟨.add l, true⟩ ∨ Enrolled past l ∧ r ≠ ⟨.remove l, true⟩ := by
  simp only [Enrolled, AddsAt, RemovesAt, getElem?_snoc, not_or, not_and]
  constructor
  · rintro ⟨i, hadds | ⟨-, hadds⟩, hstays⟩
    · have hlt := lt_length_of_addsAt hadds
      refine .inr ⟨⟨i, hadds, fun j hij => (hstays j hij).1⟩, ?_⟩
      exact (hstays past.length hlt).2 rfl
    · exact .inl hadds
  · rintro (hadds | ⟨⟨i, hadds, hstays⟩, hkept⟩)
    · refine ⟨past.length, .inr ⟨rfl, hadds⟩, fun j hj => ⟨?_, fun hj' => absurd hj' (by omega)⟩⟩
      rw [List.getElem?_eq_none (by omega)]
      simp
    · exact ⟨i, .inl hadds, fun j hij => ⟨hstays j hij, fun _ => hkept⟩⟩

/-- A change that adds a listener is its last addition. -/
lemma lastAddedAt_snoc_self (h : LastAddedAt (past ++ [⟨.add l, true⟩]) i l) : i = past.length := by
  obtain ⟨hadds, hlast⟩ := h
  rcases (getElem?_snoc ..).mp hadds with hbefore | ⟨hi, -⟩
  · have hlt := lt_length_of_addsAt hbefore
    exact absurd ((getElem?_snoc ..).mpr (.inr ⟨rfl, rfl⟩)) (hlast past.length hlt)
  · exact hi

/-- All other changes leave the last addition of a listener where it is. -/
lemma lastAddedAt_of_snoc (hr : r ≠ ⟨.add l, true⟩) (h : LastAddedAt (past ++ [r]) i l) :
    LastAddedAt past i l := by
  obtain ⟨hadds, hlast⟩ := h
  refine ⟨?_, fun j hij hadds' => hlast j hij ((getElem?_snoc ..).mpr (.inl hadds'))⟩
  rcases (getElem?_snoc ..).mp hadds with hbefore | ⟨-, hadds⟩
  · exact hbefore
  · exact absurd hadds hr

/-- Whether a change is to change anything after these changes: only who is absent can be added, and
only who is registered can be removed. -/
def Effective (past : List Relisting) : ListenerChange → Prop
  | .add l => ¬ Enrolled past l
  | .remove l => Enrolled past l

end Relisting

open Relisting

/-! ## One change -/

namespace ListenerSet

variable {past : List Relisting} {set : ListenerSet}

/-- The set is what the changes so far have made of the empty one. -/
structure Accounts (past : List Relisting) (set : ListenerSet) : Prop where
  mem_iff : ∀ l, l ∈ set.listeners ↔ Enrolled past l
  /-- Whoever was last added earlier comes earlier. -/
  ordered : set.listeners.Pairwise fun l l' =>
    ∀ i j, LastAddedAt past i l → LastAddedAt past j l' → i < j
  /-- Each change was answered as it should be. -/
  answered : ∀ i r, past[i]? = some r → (r.made = true ↔ Effective (past.take i) r.change)

/-- The empty set is accounted for by the empty past. -/
lemma accounts_empty : Accounts [] empty := by
  refine ⟨fun l => ?_, List.Pairwise.nil, fun i r hr => (by cases hr)⟩
  exact iff_of_false (List.not_mem_nil) enrolled_nil

/-- One more change that is answered as it should be. -/
lemma Accounts.answered_snoc (h : Accounts past set) {r : Relisting}
    (hmade : r.made = true ↔ Effective past r.change) :
    ∀ i x, (past ++ [r])[i]? = some x →
      (x.made = true ↔ Effective ((past ++ [r]).take i) x.change) := by
  intro i x hx
  rcases (getElem?_snoc ..).mp hx with hbefore | ⟨rfl, rfl⟩
  · have hlt : i < past.length := (List.getElem?_eq_some_iff.mp hbefore).1
    rw [List.take_append_of_le_length (Nat.le_of_lt hlt)]
    exact h.answered i x hbefore
  · rw [List.take_left]
    exact hmade

/-- A change that changes nothing is as good as none. -/
lemma Accounts.idle (h : Accounts past set) {c : ListenerChange} (hvain : ¬ Effective past c) :
    Accounts (past ++ [⟨c, false⟩]) set := by
  have hsame : ∀ l, Enrolled (past ++ [⟨c, false⟩]) l ↔ Enrolled past l := by
    intro l
    rw [enrolled_snoc]
    simp
  refine ⟨fun l => (h.mem_iff l).trans (hsame l).symm, ?_, h.answered_snoc (by simpa using hvain)⟩
  refine h.ordered.imp fun hbefore i j hi hj => ?_
  exact hbefore i j (lastAddedAt_of_snoc (by simp) hi) (lastAddedAt_of_snoc (by simp) hj)

/-- A listener is added behind all others. -/
lemma Accounts.added (h : Accounts past set) {l : ListenerId} (habsent : l ∉ set.listeners)
    {set' : ListenerSet} (hset' : set'.listeners = set.listeners ++ [l]) :
    Accounts (past ++ [⟨.add l, true⟩]) set' := by
  have hother : ∀ l' ∈ set.listeners, (⟨.add l, true⟩ : Relisting) ≠ ⟨.add l', true⟩ := by
    rintro l' hl' ⟨⟩
    exact habsent hl'
  have heffective : Effective past (.add l) := fun henrolled =>
    habsent ((h.mem_iff l).mpr henrolled)
  refine ⟨fun l' => ?_, ?_, h.answered_snoc (by simpa using heffective)⟩
  · rw [hset', List.mem_append, List.mem_singleton, enrolled_snoc, h.mem_iff, or_comm]
    simp [eq_comm]
  · rw [hset', List.pairwise_append]
    refine ⟨?_, List.pairwise_singleton _ _, ?_⟩
    · refine h.ordered.imp_of_mem fun ha hb hbefore i j hi hj => ?_
      exact hbefore i j (lastAddedAt_of_snoc (hother _ ha) hi)
        (lastAddedAt_of_snoc (hother _ hb) hj)
    · intro l' hl' l'' hl'' i j hi hj
      obtain rfl := List.mem_singleton.mp hl''
      rw [lastAddedAt_snoc_self hj]
      exact lt_length_of_addsAt (lastAddedAt_of_snoc (hother l' hl') hi).1

/-- A listener is taken out. -/
lemma Accounts.removed (h : Accounts past set) {l : ListenerId} (hpresent : l ∈ set.listeners)
    {set' : ListenerSet} (hset' : set'.listeners = set.listeners.erase l) :
    Accounts (past ++ [⟨.remove l, true⟩]) set' := by
  have heffective : Effective past (.remove l) := (h.mem_iff l).mp hpresent
  refine ⟨fun l' => ?_, ?_, h.answered_snoc (by simpa using heffective)⟩
  · rw [hset', set.nodup.mem_erase_iff, enrolled_snoc, h.mem_iff, and_comm]
    simp [eq_comm]
  · rw [hset']
    refine (h.ordered.sublist List.erase_sublist).imp fun hbefore i j hi hj => ?_
    exact hbefore i j (lastAddedAt_of_snoc (by simp) hi) (lastAddedAt_of_snoc (by simp) hj)

/-- **One change is answered as it should be, and keeps the order.** -/
theorem Accounts.change (h : Accounts past set) (c : ListenerChange) :
    ∃ made, (set.change c).2.relisting? = some ⟨c, made⟩ ∧
      Accounts (past ++ [⟨c, made⟩]) (set.change c).1 := by
  cases c with
  | add l =>
    by_cases hl : l ∈ set.listeners
    · have hadd : set.add l = (set, false) := dif_pos hl
      refine ⟨false, ?_, ?_⟩
      · simp only [ListenerSet.change, hadd, Notice.relisting?]
      · simp only [ListenerSet.change, hadd]
        exact h.idle fun heffective => heffective ((h.mem_iff l).mp hl)
    · have hmade : (set.add l).2 = true := congrArg Prod.snd (dif_neg hl)
      have hadded : (set.add l).1.listeners = set.listeners ++ [l] := by
        simp only [add, dif_neg hl]
      refine ⟨true, ?_, ?_⟩
      · simp only [ListenerSet.change, hmade, Notice.relisting?]
      · exact h.added hl hadded
  | remove l =>
    by_cases hl : l ∈ set.listeners
    · refine ⟨true, ?_, h.removed hl rfl⟩
      simp only [ListenerSet.change, remove, decide_eq_true hl, Notice.relisting?]
    · have hsame : (set.remove l).1 = set := by
        obtain ⟨ls, hnodup⟩ := set
        simp only [remove, List.erase_of_not_mem hl]
      refine ⟨false, ?_, ?_⟩
      · simp only [ListenerSet.change, remove, decide_eq_false hl, Notice.relisting?]
      · show Accounts _ (set.remove l).1
        rw [hsame]
        exact h.idle fun heffective => hl ((h.mem_iff l).mpr heffective)

/-- Several changes in a row keep the account. -/
lemma Accounts.changeAll (h : Accounts past set) (cs : List ListenerChange) :
    Accounts (past ++ (set.changeAll cs).2.filterMap Notice.relisting?) (set.changeAll cs).1 := by
  induction cs generalizing past set with
  | nil => simpa [ListenerSet.changeAll] using h
  | cons c cs ih =>
    obtain ⟨made, hnotice, hone⟩ := h.change c
    have hall := ih hone
    simp only [ListenerSet.changeAll, List.filterMap_cons, hnotice]
    rw [List.append_assoc, List.singleton_append] at hall
    exact hall

/-- Every change is answered, in turn. -/
lemma map_change_changeAll (set : ListenerSet) (cs : List ListenerChange) :
    ((set.changeAll cs).2.filterMap Notice.relisting?).map Relisting.change = cs := by
  induction cs generalizing set with
  | nil => rfl
  | cons c cs ih =>
    obtain ⟨made, hnotice⟩ : ∃ made, (set.change c).2.relisting? = some ⟨c, made⟩ := by
      cases c <;> exact ⟨_, rfl⟩
    simp only [ListenerSet.changeAll, List.filterMap_cons, hnotice, List.map_cons, ih]

/-! ## One notification -/

/-- How the listeners of a notification react, one after the other.  The set plays no part in it. -/
def reactions (react : η → ListenerId → Reaction η) : η → List ListenerId → List (Reaction η)
  | _, [] => []
  | host, l :: rest => react host l :: reactions react (react host l).host rest

/-- The warning about listener `index`, which left this behind when it panicked: a text, which the
warning repeats, or something else, for which there is a placeholder. -/
def warning (news : News) (index : Nat) : PanicPayload → Log.Record
  | .text s => .listenerPanicked index news.peer s
  | .other => .listenerPanicked index news.peer "<non-string panic payload>"

/-- The warnings that these reactions call for; the first of them has number `index`. -/
def warnings (news : News) (index : Nat) (reactions : List (Reaction η)) : List Log.Record :=
  (reactions.zipIdx index).filterMap fun reaction => reaction.1.panic.map (warning news reaction.2)

/-- A panic is no change of the set. -/
lemma filterMap_relisting?_panicNotices (index : Nat) (news : News) (panic : Option PanicPayload) :
    (panicNotices index news panic).filterMap Notice.relisting? = [] := by
  cases panic <;> rfl

/-- A panic leaves its warning in the log. -/
lemma filterMap_record?_panicNotices (index : Nat) (news : News) (panic : Option PanicPayload) :
    (panicNotices index news panic).filterMap Notice.record? =
      (panic.map (warning news index)).toList := by
  cases panic with
  | none => rfl
  | some payload => cases payload <;> rfl

/-- Changes are not recorded in the log. -/
lemma filterMap_record?_changeAll (set : ListenerSet) (cs : List ListenerChange) :
    (set.changeAll cs).2.filterMap Notice.record? = [] := by
  rw [List.filterMap_eq_nil_iff]
  intro n hn
  obtain ⟨added, l, changed, rfl⟩ := mem_changeAll hn
  rfl

variable (react : η → ListenerId → Reaction η) (news : News)

/-- A notification keeps the account of whatever changes are asked for during it. -/
lemma Accounts.call (h : Accounts past set) (index : Nat) (ls : List ListenerId) (host : η) :
    Accounts (past ++ (call react news index ls host set).2.2.filterMap Notice.relisting?)
      (call react news index ls host set).2.1 := by
  induction ls generalizing past index host set with
  | nil => simpa [ListenerSet.call] using h
  | cons l rest ih =>
    have hlater := ih (h.changeAll (react host l).changes) (index + 1) (react host l).host
    have htold : (Notice.heard l news.peer news.identity news.token).relisting? = none := rfl
    simp only [ListenerSet.call, List.filterMap_cons, htold, List.filterMap_append,
      filterMap_relisting?_panicNotices, List.append_nil]
    rw [List.append_assoc] at hlater
    exact hlater

/-- Whatever is asked for during a notification is answered, in turn. -/
lemma map_change_call (index : Nat) (ls : List ListenerId) (host : η) (set : ListenerSet) :
    ((call react news index ls host set).2.2.filterMap Notice.relisting?).map Relisting.change =
      (reactions react host ls).flatMap Reaction.changes := by
  induction ls generalizing index host set with
  | nil => rfl
  | cons l rest ih =>
    have htold : (Notice.heard l news.peer news.identity news.token).relisting? = none := rfl
    simp only [ListenerSet.call, List.filterMap_cons, htold, List.filterMap_append,
      filterMap_relisting?_panicNotices, List.append_nil, List.map_append, map_change_changeAll, ih,
      reactions, List.flatMap_cons]

/-- Every panic is recorded, with the number of its listener, and nothing else is. -/
lemma filterMap_record?_call (index : Nat) (ls : List ListenerId) (host : η) (set : ListenerSet) :
    (call react news index ls host set).2.2.filterMap Notice.record? =
      warnings news index (reactions react host ls) := by
  induction ls generalizing index host set with
  | nil => rfl
  | cons l rest ih =>
    have htold : (Notice.heard l news.peer news.identity news.token).record? = none := rfl
    simp only [call, List.filterMap_cons, htold, List.filterMap_append,
      filterMap_record?_changeAll, filterMap_record?_panicNotices, List.nil_append, ih, reactions,
      warnings, List.zipIdx_cons]
    cases (react host l).panic <;> rfl

end ListenerSet

/-! ## Sequences of requests -/

/-- A set of listeners, and the state that the host's listeners share. -/
structure Audience (η : Type) where
  host : η
  listeners : ListenerSet

namespace Audience

/-- What is asked of an audience. -/
inductive Request (η : Type)
  | add (listener : ListenerId)
  | remove (listener : ListenerId)
  /-- The listeners are told something, to which they react so. -/
  | notify (react : η → ListenerId → Reaction η) (news : ListenerSet.News)

/-- The audience after a request, and what was seen of it. -/
def serve (u : Audience η) : Request η → Audience η × List Notice
  | .add l =>
    ({ u with listeners := (u.listeners.change (.add l)).1 },
      [(u.listeners.change (.add l)).2])
  | .remove l =>
    ({ u with listeners := (u.listeners.change (.remove l)).1 },
      [(u.listeners.change (.remove l)).2])
  | .notify react news =>
    let (host, listeners, notices) := ListenerSet.notify react news u.host u.listeners
    (⟨host, listeners⟩, notices)

/-- The audience after some requests, and what was seen of all of them. -/
def serveAll (u : Audience η) : List (Request η) → Audience η × List Notice
  | [] => (u, [])
  | r :: rest =>
    let (u, notices) := u.serve r
    let (u, later) := u.serveAll rest
    (u, notices ++ later)

/-- An audience without listeners. -/
def vacant (host : η) : Audience η := ⟨host, .empty⟩

/-- The changes that a request comes to, by the host or by listeners. -/
def asked (u : Audience η) : Request η → List ListenerChange
  | .add l => [.add l]
  | .remove l => [.remove l]
  | .notify react _ =>
    (ListenerSet.reactions react u.host u.listeners.listeners).flatMap Reaction.changes

/-- The changes that some requests come to. -/
def askedAll (u : Audience η) : List (Request η) → List ListenerChange
  | [] => []
  | r :: rest => u.asked r ++ (u.serve r).1.askedAll rest

/-- One request keeps the account of the changes. -/
lemma accounts_serve {past : List Relisting} {u : Audience η}
    (h : ListenerSet.Accounts past u.listeners) (r : Request η) :
    ListenerSet.Accounts (past ++ (u.serve r).2.filterMap Notice.relisting?)
      (u.serve r).1.listeners := by
  cases r with
  | add l =>
    obtain ⟨made, hnotice, hone⟩ := h.change (.add l)
    simpa only [serve, List.filterMap_cons, hnotice, List.filterMap_nil] using hone
  | remove l =>
    obtain ⟨made, hnotice, hone⟩ := h.change (.remove l)
    simpa only [serve, List.filterMap_cons, hnotice, List.filterMap_nil] using hone
  | notify react news => exact h.call react news 0 u.listeners.listeners u.host

/-- All requests together keep it. -/
lemma accounts_serveAll {past : List Relisting} {u : Audience η}
    (h : ListenerSet.Accounts past u.listeners) (rs : List (Request η)) :
    ListenerSet.Accounts (past ++ (u.serveAll rs).2.filterMap Notice.relisting?)
      (u.serveAll rs).1.listeners := by
  induction rs generalizing past u with
  | nil => simpa [serveAll] using h
  | cons r rest ih =>
    have hlater := ih (accounts_serve h r)
    simp only [serveAll, List.filterMap_append]
    rw [List.append_assoc] at hlater
    exact hlater

/-- A request makes the changes that it comes to, in turn. -/
lemma map_change_serve (u : Audience η) (r : Request η) :
    ((u.serve r).2.filterMap Notice.relisting?).map Relisting.change = u.asked r := by
  cases r with
  | add l => rfl
  | remove l => rfl
  | notify react news => exact ListenerSet.map_change_call ..

/-- The changes that are seen are those that were asked for, in their order. -/
lemma map_change_serveAll (u : Audience η) (rs : List (Request η)) :
    ((u.serveAll rs).2.filterMap Notice.relisting?).map Relisting.change = u.askedAll rs := by
  induction rs generalizing u with
  | nil => rfl
  | cons r rest ih =>
    simp only [serveAll, List.filterMap_append, List.map_append, map_change_serve, ih, askedAll]

/-- What a notification comes to, of listeners that react in a given way. -/
structure Informs (u : Audience η) (react : η → ListenerId → Reaction η) (news : ListenerSet.News) :
    Prop where
  /-- Those who are registered when it begins are told once each, in their order, and all the
  same. -/
  heard : (u.serve (.notify react news)).2.filter Notice.isHeard =
    u.listeners.listeners.map fun l => .heard l news.peer news.identity news.token
  /-- Each panic leaves one record, with the number of the listener among those who are told. -/
  records : (u.serve (.notify react news)).2.filterMap Notice.record? =
    ListenerSet.warnings news 0 (ListenerSet.reactions react u.host u.listeners.listeners)
  /-- Such a record is a warning, and shows the number and the text. -/
  warned : ∀ entry ∈ (u.serve (.notify react news)).2.filterMap Notice.record?,
    ∃ index text, entry = .listenerPanicked index news.peer text ∧ entry.level = .warn ∧
      entry.fields = [("index", toString index), ("peer", news.peer.text), ("panic", text)]

/-- A notification goes to those who are registered when it begins. -/
lemma informs (u : Audience η) (react : η → ListenerId → Reaction η) (news : ListenerSet.News) :
    u.Informs react news := by
  have hrecords : (u.serve (.notify react news)).2.filterMap Notice.record? =
      ListenerSet.warnings news 0 (ListenerSet.reactions react u.host u.listeners.listeners) :=
    ListenerSet.filterMap_record?_call ..
  refine ⟨ListenerSet.filter_isHeard_call .., hrecords, fun entry hentry => ?_⟩
  rw [hrecords] at hentry
  obtain ⟨reaction, -, hpanic⟩ := List.mem_filterMap.mp hentry
  obtain ⟨payload, -, rfl⟩ := Option.map_eq_some_iff.mp hpanic
  cases payload with
  | text s => exact ⟨reaction.2, s, rfl, rfl, rfl⟩
  | other => exact ⟨reaction.2, "<non-string panic payload>", rfl, rfl, rfl⟩

/-- What is known of an audience after some requests, the first of which found nobody registered. -/
structure FanOut (host : η) (rs : List (Request η)) : Prop where
  /-- Nobody is registered twice. -/
  nodup : ((vacant host).serveAll rs).1.listeners.listeners.Nodup
  /-- Exactly those changes were made that somebody asked for. -/
  asked : (((vacant host).serveAll rs).2.filterMap Notice.relisting?).map Relisting.change =
    (vacant host).askedAll rs
  /-- They account for who is registered, for the order, and for what was answered. -/
  accounts : ListenerSet.Accounts (((vacant host).serveAll rs).2.filterMap Notice.relisting?)
    ((vacant host).serveAll rs).1.listeners
  /-- The next notification goes to those who are registered now. -/
  informs : ∀ react news, ((vacant host).serveAll rs).1.Informs react news

/-- **Who is registered, and who is told, after any requests.** -/
theorem fanOut (host : η) (rs : List (Request η)) : FanOut host rs := by
  constructor
  case nodup => exact ((vacant host).serveAll rs).1.listeners.nodup
  case asked => exact map_change_serveAll ..
  case accounts => exact accounts_serveAll (u := vacant host) ListenerSet.accounts_empty rs
  case informs => exact informs _

end Audience

end Admittance
