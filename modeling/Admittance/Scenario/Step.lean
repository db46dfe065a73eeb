import Admittance.Scenario.Cast

/-!
# The steps of a scenario

A scenario is a list of steps.  Some steps are plain calls, which may also be put into a race;
the others start and stop the authority, move the clock, hold a join back in its verifier, or
change what surrounds the authority.
-/

namespace Admittance.Scenario

/-- A step that may also stand in a race. -/
inductive RaceStep
  /-- A call of the authority.  References in its tokens are read when the call is made. -/
  | call (call : Call)
  /-- A call on the registry itself.  References in its tokens are read when the call has the
  registry. -/
  | direct (call : Call)
  /-- A look at the text of a token. -/
  | tokenShape (token : SessionToken)
  /-- A call whose request cannot be read. -/
  | unreadable (failure : Json.Failure)
  /-- A step that there is none of. -/
  | unknown

/-- One step of a scenario. -/
inductive Step
  | single (step : RaceStep)
  | race (hold : Option Nat) (steps : List RaceStep)
  | addListener (listener : ListenerId) (act : Act)
  | removeListener (listener : ListenerId)
  | start
  | stop
  | isRunning
  | config
  | sleep (ms : Nat)
  | advance (ms : Nat)
  | announce (conferenceNames : List String)
  | receivers
  | replaceSource (capacity : Nat)
  | joinBegin (id : String) (request : Except Json.Failure JoinRequest) (requester : PeerAddress)
  | joinEnd (id : String)
  | joinDrop (id : String)
  | sweeperSpawn (config : Except Json.Failure Config)
  | sweeperStop
  | sweeperDrop
  | sweeperFinished

/-- What comes of a step. -/
inductive Result
  | answer (answer : Answer)
  | unreadable (failure : Json.Failure)
  /-- The length of a token in bytes, and whether it is lower-case hexadecimal. -/
  | shape (bytes : Nat) (lowerHex : Bool)
  | done
  | flag (b : Bool)
  | count (n : Option Nat)
  | text (s : String)
  /-- For each announcement its number of receivers, if it has any. -/
  | receiverCounts (counts : List (Option Nat))
  | parked (b : Bool)
  | cancelled (b : Bool)
  | stopped
  | finished (b : Option Bool)
  | race (results : List Result)
  | noSource
  | noSuchJoin
  | noSweeper
  | badStep
  deriving Inhabited

/-- The token fields of a call with their references replaced. -/
def expandCall (drawn : Nat) : Call → Call
  | .join request requester =>
    .join { request with sessionToken := request.sessionToken.map (expand drawn) } requester
  | .logout token => .logout (expand drawn token)
  | .session token => .session (expand drawn token)
  | .sessionText token => .sessionText (expand drawn token)
  | .attach token peer => .attach (expand drawn token) peer
  | .destroy token => .destroy (expand drawn token)
  | call => call

end Admittance.Scenario
