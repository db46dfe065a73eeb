import Admittance.Join
import Admittance.Listener

/-!
# The authority

An authority answers calls on a registry that its background tasks change as well.  Whoever wants
the registry waits for it; while a call holds it, nothing else happens to it.  A call is
therefore a sequence of *sections*, each of which runs at one moment and leaves the call either
answered or waiting for its next section.  `Authority.arrive` says what a call does before it
first needs the registry, `Authority.enter` what a section does, and `Authority.conclude` how a
join goes on after its verifier has answered.  Any order in which waiting sections are entered is
a possible run; `Authority.perform` is the run in which nobody interferes.
-/

namespace Admittance

/-- What an authority is built from.  `η` is the state of the host's listeners. -/
structure Authority (η : Type) where
  /-- A validated configuration. -/
  config : Config
  verifier : Verifier
  /-- How tokens are drawn, one drawing after the other. -/
  draw : Nat → Drawing
  /-- How the host's listeners react. -/
  react : η → ListenerId → Reaction η

/-- What changes while an authority works. -/
structure State (η : Type) where
  now : Instant
  registry : Registry
  /-- The number of tokens drawn so far. -/
  drawn : Nat
  listeners : ListenerSet
  host : η
  /-- What the outside saw, and when. -/
  trace : List (Instant × Notice)

/-- The state before anything happened. -/
def State.initial {η : Type} (now : Instant) (sink : Option Sink) (host : η) : State η :=
  ⟨now, .empty sink, 0, .empty, host, []⟩

/-- The state after the outside saw something. -/
def State.note {η : Type} (s : State η) (notices : List Notice) : State η :=
  { s with trace := s.trace ++ notices.map fun n => (s.now, n) }

/-- The state after a record was logged. -/
def State.log {η : Type} (s : State η) (record : Log.Record) : State η :=
  s.note [.record record]

/-! ## Calls and answers -/

/-- What can be asked of an authority or of its registry. -/
inductive Call
  | join (request : JoinRequest) (requester : PeerAddress)
  | logout (token : SessionToken)
  /-- The identity behind a connection. -/
  | lookup (peer : PeerAddress)
  | conferenceEnded (conferenceName : String)
  | session (token : SessionToken)
  | sessionText (token : SessionToken)
  | sessionCount
  | create (machineId identity conferenceName : String) (properties : TextMap)
  | findByIdentity (machineId identity : String)
  | findByPeer (peer : PeerAddress)
  | attach (token : SessionToken) (peer : PeerAddress)
  | destroy (token : SessionToken)
  | purge (conferenceName : String)
  /-- A sweep as of a moment that lies `offset` nanoseconds from the present. -/
  | sweep (offset : Int) (lifetime : Duration)
  | registryText
  | setSink (sink : Option Sink)
  deriving DecidableEq

/-- What a call is answered. -/
inductive Answer
  | join (result : Except AuthError JoinResponse)
  | logout (result : Except AuthError LogoutResponse)
  | identity (identity : Option String)
  | done
  | session (session : Option Session)
  /-- All sessions that match. -/
  | sessions (found : List Session)
  | text (text : Option String)
  | count (n : Nat)
  | flag (b : Bool)
  | tokens (tokens : List SessionToken)

/-- What a call does while it holds the registry. -/
inductive Section
  /-- All of a call that needs the registry once. -/
  | whole (call : Call)
  | precheck (request : JoinRequest) (requester : PeerAddress)
  | commit (request : JoinRequest) (requester : PeerAddress) (grant : Join.Grant)

/-- How far a call has come. -/
inductive Progress
  | answered (answer : Answer)
  /-- It waits for the registry. -/
  | waiting (pending : Section)
  /-- It waits for the verifier. -/
  | verifying (context : VerifyContext)

namespace Authority

variable {η : Type}

/-! ## Calls that need the registry once -/

/-- A state whose registry was changed by an operation. -/
def afterOperation {α : Type} (s : State η) (o : Registry.Outcome α) : State η :=
  { s with registry := o.registry }.note o.notices

/-- Ends a session by name.  Where the participant goes next is asked while the session still
lives. -/
def logout (a : Authority η) (s : State η) (token : SessionToken) :
    State η × Except AuthError LogoutResponse :=
  match s.registry.get? token with
  | none => (s, .error .sessionInvalid)
  | some session =>
    (afterOperation s (s.registry.destroy token), .ok ⟨a.verifier.logoutUrl session⟩)

/-- Removes the sessions of a conference that ended; the flag says whether the removal came to
its end. -/
def purgeEnded (s : State η) (conferenceName : String) : State η × Bool :=
  let removal := s.registry.purge conferenceName
  let purged := afterOperation s removal
  if removal.value.completed then
    (purged.log (.conferencePurged conferenceName removal.value.tokens.length), true)
  else (purged, false)

/-- Runs a call that needs the registry once. -/
def runWhole (a : Authority η) (s : State η) : Call → State η × Answer
  | .join _ _ => (s, .done)
  | .logout token => let (s, result) := a.logout s token; (s, .logout result)
  | .lookup peer => (s, .identity ((s.registry.findByPeer? peer).map (·.identity)))
  | .conferenceEnded name => ((purgeEnded s name).1, .done)
  | .session token => (s, .session (s.registry.get? token))
  | .sessionText token => (s, .text ((s.registry.get? token).map (·.text)))
  | .sessionCount => (s, .count s.registry.size)
  | .create machineId identity conferenceName properties =>
    let o := s.registry.create s.now (a.draw s.drawn) machineId identity conferenceName properties
    ({ afterOperation s o with drawn := s.drawn + 1 }, .session (some o.value))
  | .findByIdentity machineId identity => (s, .sessions (s.registry.ofIdentity machineId identity))
  | .findByPeer peer => (s, .session (s.registry.findByPeer? peer))
  | .attach token peer =>
    let o := s.registry.attach s.now token peer
    (afterOperation s o, .session o.value)
  | .destroy token => let o := s.registry.destroy token; (afterOperation s o, .flag o.value)
  | .purge name => let o := s.registry.purge name; (afterOperation s o, .tokens o.value.tokens)
  | .sweep offset lifetime =>
    let o := s.registry.sweep (s.now + offset) lifetime
    (afterOperation s o, .tokens o.value.tokens)
  | .registryText => (s, .text (some s.registry.text))
  | .setSink sink => ({ s with registry := { s.registry with sink := sink } }, .done)

/-! ## Joins -/

/-- A refused join. -/
def refuse (s : State η) (refusal : AuthError × Log.Record) : State η × Progress :=
  (s.log refusal.2, .answered (.join (.error refusal.1)))

/-- The pre-check of a join. -/
def enterPrecheck (a : Authority η) (s : State η) (request : JoinRequest)
    (requester : PeerAddress) : State η × Progress :=
  match Join.precheck s.registry request with
  | .error refusal => refuse s refusal
  | .ok presented =>
    match Join.trusted a.verifier.policy presented with
    | some grant => (s, .waiting (.commit request requester grant))
    | none => (s, .verifying ⟨request, requester, presented⟩)

/-- A join asks its verifier. -/
def consult (s : State η) (context : VerifyContext) (registryFree : Bool) : State η :=
  s.note [.consulted context registryFree]

/-- A join goes on after its verifier answered. -/
def conclude (s : State η) (context : VerifyContext) (verdict : Verdict) : State η × Progress :=
  match Join.judge context.peer context.request.machineId context.session verdict with
  | .error refusal => refuse s refusal
  | .ok grant => (s, .waiting (.commit context.request context.peer grant))

/-- Tells the listeners of an authenticated peer. -/
def announce (a : Authority η) (s : State η) (requester : PeerAddress) (session : Session) :
    State η :=
  let (host, listeners, notices) :=
    ListenerSet.notify a.react ⟨requester, session.identity, session.token⟩ s.host s.listeners
  { s with host := host, listeners := listeners }.note notices

/-- The commit of a join with the given attachment, and the notification that follows it at once. -/
def enterCommitBy (attach : Join.Attachment) (a : Authority η) (s : State η)
    (request : JoinRequest) (requester : PeerAddress) (grant : Join.Grant) : State η × Progress :=
  let commit := Join.commit attach s.registry s.now (a.draw s.drawn) request requester grant
  let committed := { s with
    registry := commit.registry
    drawn := if commit.drew then s.drawn + 1 else s.drawn }.note commit.notices
  match commit.result with
  | .error error => (committed, .answered (.join (.error error)))
  | .ok session =>
    (a.announce committed requester session, .answered (.join (.ok (Join.response session))))

/-- The commit of a join, and the notification that follows it at once. -/
def enterCommit (a : Authority η) (s : State η) (request : JoinRequest)
    (requester : PeerAddress) (grant : Join.Grant) : State η × Progress :=
  a.enterCommitBy (fun r token => r.attach s.now token requester) s request requester grant

/-! ## Runs -/

/-- What a call does before it needs the registry for the first time. -/
def arrive (a : Authority η) (s : State η) : Call → State η × Progress
  | .join request requester =>
    if request.machineId.isEmpty then refuse s (Join.refuseUnnamed requester)
    else (s, .waiting (.precheck request requester))
  | .conferenceEnded name =>
    if a.config.destroyOnConferenceEnd then (s, .waiting (.whole (.conferenceEnded name)))
    else (s.log (.conferenceKept name), .answered .done)
  | call => (s, .waiting (.whole call))

/-- What a call does while it holds the registry, and up to its next wait. -/
def enter (a : Authority η) (s : State η) : Section → State η × Progress
  | .whole call => let (s, answer) := a.runWhole s call; (s, .answered answer)
  | .precheck request requester => a.enterPrecheck s request requester
  | .commit request requester grant => a.enterCommit s request requester grant

/-- Lets a call go on until it waits for the registry or is answered, with a verifier that answers
at once.  The flag says whether the registry is free meanwhile. -/
def verifyAtOnce (a : Authority η) (registryFree : Bool) : State η × Progress → State η × Progress
  | (s, .verifying context) =>
    conclude (consult s context registryFree) context (a.verifier.verify context)
  | reached => reached

/-- Enters whatever a call waits for. -/
def proceed (a : Authority η) : State η × Progress → State η × Progress
  | (s, .waiting pending) => a.verifyAtOnce true (a.enter s pending)
  | reached => a.verifyAtOnce true reached

/-- A call that runs undisturbed: no call has more than two sections. -/
def perform (a : Authority η) (s : State η) (call : Call) : State η × Progress :=
  a.proceed (a.proceed (a.arrive s call))

/-- What a new authority logs about its configuration. -/
def built (config : Config) (corrections : List Config.Correction) : List Log.Record :=
  corrections.map .correction ++ [.lifetimeConfigured config.lifetime] ++
    if config.destroyOnConferenceEnd then [.eagerDestruction] else []

end Authority

end Admittance
