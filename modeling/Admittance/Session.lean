import Admittance.Message
import Admittance.Time

/-!
# Sessions

A session binds a token to one machine and one identity, and remembers the conference it was
opened for, the connection that uses it now and when it was last used.
-/

namespace Admittance

/-- One authenticated device. -/
structure Session where
  token : SessionToken
  machineId : String
  identity : String
  conferenceName : String
  /-- The connection that uses the session now. -/
  peer : Option PeerAddress
  lastActivity : Instant
  createdAt : Instant
  deriving DecidableEq

namespace Session

/-- A session that starts at `now`, with no connection yet. -/
def opened (token : SessionToken) (machineId identity conferenceName : String) (now : Instant) :
    Session :=
  ⟨token, machineId, identity, conferenceName, none, now, now⟩

/-- The nanoseconds since the session was last used. -/
def idleFor (s : Session) (now : Instant) : Nat := now.since s.lastActivity

/-- Whether the session has been idle for strictly longer than `lifetime`. -/
def isExpired (s : Session) (now : Instant) (lifetime : Duration) : Bool :=
  lifetime.nanos < s.idleFor now

/-- The session as it is used by `peer` at `now`. -/
def usedBy (s : Session) (peer : PeerAddress) (now : Instant) : Session :=
  { s with peer := some peer, lastActivity := now }

/-- The session without a connection. -/
def detached (s : Session) : Session := { s with peer := none }

/-- A line that describes the session. -/
def text (s : Session) : String :=
  "Session[" ++ s.identity ++ "@" ++ s.machineId ++ " conference=" ++ s.conferenceName ++
    " token=" ++ s.token.text ++ "]"

end Session

end Admittance
