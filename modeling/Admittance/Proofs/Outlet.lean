import Admittance.Proofs.Report
import Admittance.Proofs.Searches

/-!
# Where events go

An event goes to the sink of the registry, or nowhere if there is none; an `Outlet` is either, and
its sink takes every event.  Either way each event is reported by one notice: the sink takes it, or
the log names its session and says that there is no sink (`Outlet.report`).

An `Utterance` is an event before it has been reported, or anything else that is seen;
`Outlet.shows` is what is seen of utterances with an outlet.  Of the events among them a sink takes
all and a missing one none (`Outlet.reports_shows`), and all else that is seen is the same with any
outlet (`Outlet.quietIn_shows`).
-/

namespace Admittance

variable {η : Type}

/-! ## Outlets -/

/-- Where events go: to a sink that takes every one of them, or nowhere. -/
structure Outlet where
  sink? : Option Sink
  sturdy : ∀ sink, sink? = some sink → sink.fragile = false

namespace Outlet

/-- There is no sink. -/
def missing : Outlet := ⟨none, fun _ h => by cases h⟩

/-- A sink of this name takes every event. -/
def recording (name : String) : Outlet := ⟨some ⟨name, false⟩, fun _ h => by cases h; rfl⟩

/-- There is a sink. -/
def isOpen (x : Outlet) : Bool := x.sink?.isSome

/-- What is seen when an event is reported. -/
def report (x : Outlet) (e : Event) : Notice :=
  match x.sink? with
  | some sink => .event sink.name e
  | none => .record (.sinkMissing e.token)

variable {x : Outlet} {r : Registry}

/-- A registry with the sink of an outlet reports to that outlet. -/
lemma report_eq (h : r.sink = x.sink?) (e : Event) : r.report e = [x.report e] := by
  unfold Registry.report Event.reportedTo report
  rw [h]
  cases x.sink? <;> rfl

/-- The sink of an outlet does not break down. -/
lemma sinkIsFragile_eq (h : r.sink = x.sink?) : r.sinkIsFragile = false := by
  unfold Registry.sinkIsFragile
  rw [h]
  split
  · exact x.sturdy _ ‹_›
  · rfl

end Outlet

/-! ## Reports -/

namespace Notice

/-- The notice reports an event: a sink takes it, or the log says that there is none. -/
def isReport : Notice → Bool
  | .event .. | .record (.sinkMissing _) => true
  | _ => false

/-- The session of whose event the log says that there is no sink for it. -/
def untold? : Notice → Option SessionToken
  | .record (.sinkMissing t) => some t
  | _ => none

/-- Such a record is an error that says so and names the session. -/
lemma exists_record_of_untold? {n : Notice} {t : SessionToken} (h : n.untold? = some t) :
    ∃ record, n = .record record ∧ record.level = .error ∧
      record.message = "unable to emit session event: no event sink configured" ∧
      record.fields = [("session_id", t.text)] := by
  cases n with
  | event | consulted | heard | relisted => cases h
  | record record =>
    cases record with
    | sinkMissing u =>
      obtain rfl := Option.some.inj h
      exact ⟨_, rfl, rfl, rfl, rfl⟩
    | _ => cases h

/-- What is no report tells of no event, nor of one that no sink takes. -/
lemma eq_none_of_not_isReport {n : Notice} (h : n.isReport = false) :
    n.event? = none ∧ n.untold? = none := by
  cases n with
  | event => cases h
  | consulted | heard | relisted => exact ⟨rfl, rfl⟩
  | record record =>
    refine ⟨rfl, ?_⟩
    cases record with
    | sinkMissing => cases h
    | _ => rfl

/-- Telling listeners reports no event. -/
lemma isReport_of_mem_call {react : η → ListenerId → Reaction η} {news : ListenerSet.News}
    {index : Nat} {ls : List ListenerId} {host : η} {set : ListenerSet} {n : Notice}
    (hn : n ∈ (ListenerSet.call react news index ls host set).2.2) : n.isReport = false := by
  rcases ListenerSet.mem_call hn with ⟨l, rfl⟩ | ⟨added, l, changed, rfl⟩ | ⟨i, message, rfl⟩
  · rfl
  · rfl
  · rfl

end Notice

/-- A report is a report with any outlet. -/
lemma Outlet.isReport_report (x : Outlet) (e : Event) : (x.report e).isReport = true := by
  unfold Outlet.report
  split <;> rfl

/-! ## What is seen -/

/-- The events that sinks take, with the moment and the sink of each. -/
def eventsIn (news : List (Instant × Notice)) : List (Instant × String × Event) :=
  news.filterMap fun entry => entry.2.event?.map fun e => (entry.1, e)

/-- The sessions of whose events the log says that there is no sink for them. -/
def untoldIn (news : List (Instant × Notice)) : List SessionToken :=
  news.filterMap fun entry => entry.2.untold?

/-- All else that is seen. -/
def quietIn (news : List (Instant × Notice)) : List (Instant × Notice) :=
  news.filter fun entry => !entry.2.isReport

/-- Events come in the order of what was seen. -/
lemma eventsIn_append (news later : List (Instant × Notice)) :
    eventsIn (news ++ later) = eventsIn news ++ eventsIn later := List.filterMap_append

/-- Events that no sink takes come in the order of what was seen. -/
lemma untoldIn_append (news later : List (Instant × Notice)) :
    untoldIn (news ++ later) = untoldIn news ++ untoldIn later := List.filterMap_append

/-- All else comes in the order in which it was seen. -/
lemma quietIn_append (news later : List (Instant × Notice)) :
    quietIn (news ++ later) = quietIn news ++ quietIn later := List.filter_append ..

namespace Outlet

/-- What a sink takes of events that are reported here. -/
def receives (x : Outlet) (told : List (Instant × Event)) : List (Instant × String × Event) :=
  match x.sink? with
  | some sink => told.map fun e => (e.1, sink.name, e.2)
  | none => []

/-- The sessions of these events, if no sink takes them. -/
def misses (x : Outlet) (told : List (Instant × Event)) : List SessionToken :=
  match x.sink? with
  | some _ => []
  | none => told.map (·.2.token)

/-- A report is none of the quiet things. -/
lemma quietIn_report_cons (x : Outlet) (t : Instant) (e : Event) (news : List (Instant × Notice)) :
    quietIn ((t, x.report e) :: news) = quietIn news := by
  simp only [quietIn, List.filter_cons, isReport_report, Bool.not_true, Bool.false_eq_true,
    if_false]

/-- These events, and no others, have been reported here. -/
structure Reports (x : Outlet) (told : List (Instant × Event)) (news : List (Instant × Notice)) :
    Prop where
  events : eventsIn news = x.receives told
  untold : untoldIn news = x.misses told

namespace Reports

variable {x : Outlet} {told : List (Instant × Event)} {news : List (Instant × Notice)}

/-- Nothing told is nothing reported. -/
lemma nil : x.Reports [] [] := by
  constructor
  · unfold receives
    split <;> rfl
  · unfold misses
    split <;> rfl

/-- An event that is told is reported. -/
lemma told_cons (h : x.Reports told news) (t : Instant) (e : Event) :
    x.Reports ((t, e) :: told) ((t, x.report e) :: news) := by
  have hreceives : x.receives ((t, e) :: told) = eventsIn [(t, x.report e)] ++ x.receives told := by
    unfold receives report
    cases x.sink? <;> rfl
  have hmisses : x.misses ((t, e) :: told) = untoldIn [(t, x.report e)] ++ x.misses told := by
    unfold misses report
    cases x.sink? <;> rfl
  constructor
  · rw [hreceives, ← h.events]
    exact eventsIn_append [(t, x.report e)] news
  · rw [hmisses, ← h.untold]
    exact untoldIn_append [(t, x.report e)] news

/-- What is no report tells of nothing. -/
lemma quiet_cons (h : x.Reports told news) (t : Instant) {n : Notice} (hn : n.isReport = false) :
    x.Reports told ((t, n) :: news) := by
  obtain ⟨hevent, huntold⟩ := Notice.eq_none_of_not_isReport hn
  constructor
  · rw [← h.events]
    simp only [eventsIn, List.filterMap_cons, hevent, Option.map_none]
  · rw [← h.untold]
    simp only [untoldIn, List.filterMap_cons, huntold]

end Reports

end Outlet

/-! ## Utterances -/

/-- What there is to see, wherever events go. -/
inductive Utterance
  | report (event : Event)
  | other (notice : Notice) (quiet : notice.isReport = false)

namespace Utterance

/-- What is seen of it if events go to `x`. -/
def seen (x : Outlet) : Utterance → Notice
  | report e => x.report e
  | other n _ => n

/-- The event that is reported. -/
def event? : Utterance → Option Event
  | report e => some e
  | other _ _ => none

end Utterance

/-- The events that are reported, with the moment of each. -/
def toldIn (uttered : List (Instant × Utterance)) : List (Instant × Event) :=
  uttered.filterMap fun entry => entry.2.event?.map fun e => (entry.1, e)

namespace Outlet

/-- What is seen of all this if events go to `x`. -/
def shows (x : Outlet) (uttered : List (Instant × Utterance)) : List (Instant × Notice) :=
  uttered.map fun entry => (entry.1, entry.2.seen x)

/-- **The same events are reported to any outlet.** -/
theorem reports_shows (x : Outlet) (uttered : List (Instant × Utterance)) :
    x.Reports (toldIn uttered) (x.shows uttered) := by
  induction uttered with
  | nil => exact .nil
  | cons entry rest ih =>
    obtain ⟨t, utterance⟩ := entry
    cases utterance with
    | report e => exact ih.told_cons t e
    | other n quiet => exact ih.quiet_cons t quiet

/-- **All else that is seen is the same with any outlet.** -/
theorem quietIn_shows (x y : Outlet) (uttered : List (Instant × Utterance)) :
    quietIn (x.shows uttered) = quietIn (y.shows uttered) := by
  induction uttered with
  | nil => rfl
  | cons entry rest ih =>
    obtain ⟨t, utterance⟩ := entry
    cases utterance with
    | report e =>
      have hskip : ∀ z : Outlet,
          quietIn (z.shows ((t, .report e) :: rest)) = quietIn (z.shows rest) := fun z =>
        z.quietIn_report_cons t e (z.shows rest)
      rw [hskip, hskip, ih]
    | other n quiet =>
      have hkeep : ∀ z : Outlet, quietIn (z.shows ((t, .other n quiet) :: rest)) =
          quietIn [(t, n)] ++ quietIn (z.shows rest) :=
        fun z => quietIn_append [(t, n)] (z.shows rest)
      rw [hkeep, hkeep, ih]

end Outlet

end Admittance
