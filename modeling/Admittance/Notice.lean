import Admittance.Log
import Admittance.Verifier

/-!
# What the outside sees

While an authority works, events reach its sink, records reach its log, its verifier is asked and
its listeners are called.  All of this is collected in the order in which it happens.
-/

namespace Admittance

/-- One thing that the outside of an authority sees. -/
inductive Notice
  /-- A sink takes an event. -/
  | event (sink : String) (event : Event)
  /-- A record is logged. -/
  | record (record : Log.Record)
  /-- A verifier is asked; the flag says whether the registry was free then. -/
  | consulted (context : VerifyContext) (registryFree : Bool)
  /-- A listener is told of an authenticated peer. -/
  | heard (listener : String) (peer : PeerAddress) (identity : String) (token : SessionToken)
  /-- A listener asked for an addition or a removal, and whether anything changed. -/
  | relisted (added : Bool) (listener : String) (changed : Bool)
  deriving DecidableEq

/-- What is seen when an event is reported: the sink takes it, or the log says that there is no
sink. -/
def Event.reportedTo (e : Event) : Option Sink → List Notice
  | some sink => [.event sink.name e]
  | none => [.record (.sinkMissing e.token)]

end Admittance
