import Admittance.Config
import Admittance.Event

/-!
# Log records

Everything that the library writes to a log is one of the records below.  A record knows its
level, its message and its fields; all of them are texts made here and nowhere else.
-/

namespace Admittance.Log

/-- How much a record matters, from `error` down to `trace`. -/
inductive Level
  | error
  | warn
  | info
  | debug
  | trace
  deriving DecidableEq, Repr

namespace Level

/-- The rank of a level; a larger rank is a finer level. -/
def rank : Level → Nat
  | error => 1
  | warn => 2
  | info => 3
  | debug => 4
  | trace => 5

/-- The name of a level. -/
def name : Level → String
  | error => "ERROR"
  | warn => "WARN"
  | info => "INFO"
  | debug => "DEBUG"
  | trace => "TRACE"

end Level

/-- One line of the log. -/
inductive Record
  | correction (c : Config.Correction)
  | lifetimeConfigured (lifetime : Duration)
  | eagerDestruction
  | tokenCollision
  | sessionCreated (token : SessionToken) (identity machineId conference : String)
  | sinkMissing (token : SessionToken)
  | peerDetached (token : SessionToken) (peer : PeerAddress)
  | sessionDestroyed (session : Session)
  | sessionRemoved (session : Session) (reason : RemovalReason)
  | machineMissing (requester : PeerAddress)
  | sessionUnknown (token : SessionToken)
  | machineMismatch (token : SessionToken) (expected got : String)
  | verificationRefused (requester : PeerAddress) (machineId reason : String)
  | identityEmpty (requester : PeerAddress)
  | identityMismatch (requester : PeerAddress) (token : SessionToken) (expected got : String)
  | sessionVanished (token : SessionToken)
  | peerAuthenticated (requester : PeerAddress) (identity : String) (token : SessionToken)
  | listenerPanicked (index : Nat) (peer : PeerAddress) (message : String)
  | sweeperStarted (interval lifetime jitter : Duration)
  | sessionsSwept (count : Nat)
  | sweeperPanicked
  | sweeperStopped
  | hookSubscribed
  | conferenceKept (conference : String)
  | conferencePurged (conference : String) (count : Nat)
  | receiverLagged (missed : Nat)
  | sourceClosed
  | hookUnsubscribed
  | hookPanicked
  | alreadyRunning
  | authorityStarted (lifetime sweepInterval : Duration) (destroyOnConferenceEnd : Bool)
  | authorityStopped
  deriving DecidableEq

namespace Record

/-- The level of a record. -/
def level : Record → Level
  | sinkMissing _ | sweeperPanicked | hookPanicked => .error
  | correction _ | identityEmpty _ | listenerPanicked .. | receiverLagged _ => .warn
  | lifetimeConfigured _ | eagerDestruction | sessionCreated .. | sessionDestroyed _
  | sessionRemoved .. | peerAuthenticated .. | conferencePurged .. | authorityStarted ..
  | authorityStopped => .info
  | conferenceKept _ => .trace
  | _ => .debug

/-- The message of a record. -/
def message : Record → String
  | correction (.intervalRaised ..) => "sweep_interval below minimum, clamping"
  | correction (.jitterCapped ..) => "sweep_jitter exceeds sweep_interval, clamping"
  | lifetimeConfigured _ => "authentication lifetime configured"
  | eagerDestruction => "sessions are destroyed when their conference ends"
  | tokenCollision => "session token collision, regenerating"
  | sessionCreated .. => "authentication session created"
  | sinkMissing _ => "unable to emit session event: no event sink configured"
  | peerDetached .. => "peer moved to another session, detaching"
  | sessionDestroyed _ => "authentication session destroyed"
  | sessionRemoved .. => "removing authentication session"
  | machineMissing _ => "join rejected: no machine id"
  | sessionUnknown _ => "join rejected: unknown session"
  | machineMismatch .. => "join rejected: machine mismatch"
  | verificationRefused .. => "join rejected by verifier"
  | identityEmpty _ => "verifier resolved an empty identity"
  | identityMismatch .. => "join rejected: identity mismatch"
  | sessionVanished _ => "session vanished during join"
  | peerAuthenticated .. => "peer authenticated"
  | listenerPanicked .. => "authentication listener panicked"
  | sweeperStarted .. => "session sweeper started"
  | sessionsSwept _ => "expired sessions swept"
  | sweeperPanicked => "session sweeper panicked"
  | sweeperStopped => "session sweeper stopped"
  | hookSubscribed => "subscribed to conference lifecycle"
  | conferenceKept _ => "conference ended, keeping sessions"
  | conferencePurged .. => "sessions purged for ended conference"
  | receiverLagged _ => "conference lifecycle receiver lagged"
  | sourceClosed => "conference lifecycle source closed"
  | hookUnsubscribed => "unsubscribed from conference lifecycle"
  | hookPanicked => "conference lifecycle hook panicked"
  | alreadyRunning => "authentication authority already running"
  | authorityStarted .. => "authentication authority started"
  | authorityStopped => "authentication authority stopped"

/-- A truth value as text. -/
def boolText (b : Bool) : String := if b then "true" else "false"

/-- The named fields of a record. -/
def fields : Record → List (String × String)
  | correction (.intervalRaised interval min) => [("interval", interval.text), ("min", min.text)]
  | correction (.jitterCapped jitter interval) =>
    [("jitter", jitter.text), ("interval", interval.text)]
  | lifetimeConfigured lifetime => [("lifetime", lifetime.text)]
  | sessionCreated token identity machineId conference =>
    [("token", token.text), ("identity", identity), ("machine_id", machineId),
      ("conference", conference)]
  | sinkMissing token => [("session_id", token.text)]
  | peerDetached token peer => [("token", token.text), ("peer", peer.text)]
  | sessionDestroyed session => [("session", session.text)]
  | sessionRemoved session reason => [("session", session.text), ("reason", reason.name)]
  | machineMissing requester => [("requester", requester.text)]
  | sessionUnknown token => [("token", token.text)]
  | machineMismatch token expected got =>
    [("token", token.text), ("expected", expected), ("got", got)]
  | verificationRefused requester machineId reason =>
    [("requester", requester.text), ("machine_id", machineId), ("reason", reason)]
  | identityEmpty requester => [("requester", requester.text)]
  | identityMismatch requester token expected got =>
    [("requester", requester.text), ("token", token.text), ("expected", expected), ("got", got)]
  | sessionVanished token => [("token", token.text)]
  | peerAuthenticated requester identity token =>
    [("requester", requester.text), ("identity", identity), ("token", token.text)]
  | listenerPanicked index peer message =>
    [("index", toString index), ("peer", peer.text), ("panic", message)]
  | sweeperStarted interval lifetime jitter =>
    [("interval", interval.text), ("lifetime", lifetime.text), ("jitter", jitter.text)]
  | sessionsSwept count => [("count", toString count)]
  | conferenceKept conference => [("conference", conference)]
  | conferencePurged conference count => [("conference", conference), ("count", toString count)]
  | receiverLagged missed => [("missed", toString missed)]
  | authorityStarted lifetime sweepInterval destroyOnConferenceEnd =>
    [("lifetime", lifetime.text), ("sweep_interval", sweepInterval.text),
      ("destroy_on_conference_end", boolText destroyOnConferenceEnd)]
  | _ => []

/-- Whether a log of the given finest level keeps the record. -/
def isKept (finest : Option Level) (r : Record) : Bool :=
  match finest with
  | none => false
  | some level => r.level.rank ≤ level.rank

end Record

end Admittance.Log
