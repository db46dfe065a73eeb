import Admittance.Scenario.Step

/-!
# Reports

After every step a scenario reports what came of it, what the outside saw meanwhile, and which
sessions are live.  A removal of several sessions has no order of its own, so neighbouring
removals that cannot be told apart in time and reason are reported in the order of their tokens.
-/

namespace Admittance.Scenario

/-- An event as it is reported: its sink, itself, and when it happened unless that is left to
chance. -/
structure ReportedEvent where
  sink : String
  event : Event
  at? : Option Int
  deriving DecidableEq

/-- A call of the verifier as it is reported. -/
structure ReportedVerification where
  context : VerifyContext
  /-- Whether the registry was free, if anybody watched. -/
  registryFree : Option Bool

/-- What listeners heard and did. -/
inductive ReportedNotification
  | heard (listener : ListenerId) (peer : PeerAddress) (identity : String) (token : SessionToken)
  | relisted (added : Bool) (listener : ListenerId) (changed : Bool)

/-- A log record as it is reported: its fields are texts. -/
structure ReportedRecord where
  level : String
  message : String
  fields : List (String × String)

/-- The report on one step. -/
structure Report where
  result : Result
  now : Int
  events : List ReportedEvent
  verifications : List ReportedVerification
  notifications : List ReportedNotification
  records : List ReportedRecord
  /-- The live sessions, if they are asked for. -/
  sessions : Option (List Session)

/-- Whether one thing may stand before another in the order of their tokens. -/
def tokenLe (a b : SessionToken) : Bool := compare a.text b.text ≠ .gt

/-! ## Events -/

/-- The reason of a removal that nobody asked for by name. -/
def unaskedReason? : Event → Option RemovalReason
  | .destroyed _ _ _ .destroyed => none
  | .destroyed _ _ _ reason => some reason
  | .created .. => none

/-- Whether two neighbouring events cannot be told apart in time and reason. -/
def sameRemoval (a b : ReportedEvent) : Bool :=
  (unaskedReason? a.event).isSome && unaskedReason? a.event = unaskedReason? b.event &&
    a.at? = b.at?

/-- Events with their removals in the order of their tokens. -/
def settleEvents (events : List ReportedEvent) : List ReportedEvent :=
  (events.splitBy sameRemoval).flatMap fun run =>
    run.mergeSort fun a b => tokenLe a.event.token b.event.token

/-! ## Records -/

/-- The session of a record that belongs to a removal. -/
def removedToken? : Log.Record → Option SessionToken
  | .sessionRemoved session _ => some session.token
  | .sinkMissing token => some token
  | _ => none

/-- Whether two neighbouring records belong to removals. -/
def bothRemovals (a b : Log.Record) : Bool :=
  (removedToken? a).isSome && (removedToken? b).isSome

/-- Whether the session of a record may stand before the session of another one. -/
def recordLe (a b : Log.Record) : Bool :=
  match removedToken? a, removedToken? b with
  | some s, some t => tokenLe s t
  | _, _ => true

/-- Records with their removals in the order of their tokens. -/
def settleRecords (records : List Log.Record) : List Log.Record :=
  (records.splitBy bothRemovals).flatMap fun run => run.mergeSort recordLe

/-- The fields of a record; a jitter that is left to chance has no value. -/
def reportedFields (byChance : Bool) : Log.Record → List (String × String)
  | record@(.sweeperStarted ..) =>
    record.fields.map fun f => if byChance && f.1 = "jitter" then (f.1, "random") else f
  | record => record.fields

/-- A record as it is reported. -/
def reportRecord (byChance : Bool) (record : Log.Record) : ReportedRecord :=
  ⟨record.level.name, record.message, reportedFields byChance record⟩

/-! ## Traces -/

/-- The events of a trace. -/
def eventsOf (byChance : Bool) (trace : List (Instant × Notice)) : List ReportedEvent :=
  settleEvents (trace.filterMap fun
    | (t, .event sink event) =>
      some ⟨sink, event, if byChance then none else some (Host.millis t)⟩
    | _ => none)

/-- The verifications of a trace. -/
def verificationsOf (watched : Bool) (trace : List (Instant × Notice)) :
    List ReportedVerification :=
  trace.filterMap fun
    | (_, .consulted context free) => some ⟨context, if watched then some free else none⟩
    | _ => none

/-- What listeners heard and did in a trace. -/
def notificationsOf (trace : List (Instant × Notice)) : List ReportedNotification :=
  trace.filterMap fun
    | (_, .heard listener peer identity token) => some (.heard listener peer identity token)
    | (_, .relisted added listener changed) => some (.relisted added listener changed)
    | _ => none

/-- The records of a trace that a log of the given finest level keeps. -/
def recordsOf (byChance : Bool) (finest : Option Log.Level) (trace : List (Instant × Notice)) :
    List ReportedRecord :=
  (settleRecords (trace.filterMap fun
    | (_, .record record) => if record.isKept finest then some record else none
    | _ => none)).map (reportRecord byChance)

end Admittance.Scenario
