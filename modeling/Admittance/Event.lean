import Admittance.Session

/-!
# Session events

Every session is reported twice: when it is created and when it is removed.  The reports go to a
sink that the host supplies.  A sink may be fragile, in which case it breaks down on a removal
that nobody asked for by name; whoever was removing then stops where they are.
-/

namespace Admittance

/-- Why a session was removed. -/
inductive RemovalReason
  /-- It was given up by name. -/
  | destroyed
  /-- It was idle for too long. -/
  | expired
  /-- Its conference ended. -/
  | conferenceEnded
  deriving DecidableEq, Repr

/-- The name of a reason. -/
def RemovalReason.name : RemovalReason → String
  | .destroyed => "Destroyed"
  | .expired => "Expired"
  | .conferenceEnded => "ConferenceEnded"

/-- Something that happened to a session. -/
inductive Event
  | created (token : SessionToken) (identity machineId : String) (properties : TextMap)
  | destroyed (token : SessionToken) (identity machineId : String) (reason : RemovalReason)
  deriving DecidableEq

namespace Event

/-- The session that an event is about. -/
def token : Event → SessionToken
  | created token _ _ _ => token
  | destroyed token _ _ _ => token

/-- The removal of a session. -/
def removal (s : Session) (reason : RemovalReason) : Event :=
  destroyed s.token s.identity s.machineId reason

end Event

/-- Where events go. -/
structure Sink where
  name : String
  /-- Whether the sink breaks down on removals by expiry or by the end of a conference. -/
  fragile : Bool
  deriving DecidableEq

end Admittance
