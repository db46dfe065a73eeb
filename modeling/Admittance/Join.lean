import Admittance.Registry

/-!
# Joining, phase by phase

A join runs in three phases.  The *pre-check* looks the presented token up in the registry.  The
*judgement* follows the verifier's answer, or skips the verifier when the policy trusts a valid
token.  The *commit* finds or creates the session in the registry and attaches the connection.
The registry is held during the first and the last phase only, so anything may happen to it
between them; each phase is therefore a function of the registry as it finds it.
-/

namespace Admittance.Join

/-- What entitles a join to its commit. -/
inductive Grant
  /-- A valid token under a policy that trusts it. -/
  | reuse (token : SessionToken)
  /-- The verifier's answer. -/
  | verified (v : Verified)
  deriving DecidableEq

/-- A join that names no machine is refused before anything else. -/
def refuseUnnamed (requester : PeerAddress) : AuthError × Log.Record :=
  (.notAcceptable "machine identity missing", .machineMissing requester)

/-! ## Pre-check -/

/-- Looks a presented token up: its session must be live and belong to the machine. -/
def checkToken (r : Registry) (token : SessionToken) (machineId : String) :
    Except (AuthError × Log.Record) Session :=
  match r.get? token with
  | none => .error (.sessionInvalid, .sessionUnknown token)
  | some session =>
    if session.machineId = machineId then .ok session
    else
      .error (.notAcceptable "machine identity mismatch",
        .machineMismatch token session.machineId machineId)

/-- The session that a request presents, if it presents one. -/
def precheck (r : Registry) (request : JoinRequest) :
    Except (AuthError × Log.Record) (Option Session) :=
  match request.presentedToken with
  | none => .ok none
  | some token => (checkToken r token request.machineId).map some

/-! ## Judgement -/

/-- What a presented session entitles to without a verifier. -/
def trusted (policy : SessionPolicy) (presented : Option Session) : Option Grant :=
  match policy, presented with
  | .trustToken, some session => some (.reuse session.token)
  | _, _ => none

/-- Follows a verifier's answer.  It must name an identity, and a presented session must belong
to that identity. -/
def judge (requester : PeerAddress) (machineId : String) (presented : Option Session)
    (verdict : Verdict) : Except (AuthError × Log.Record) Grant :=
  match verdict with
  | .error failure =>
    .error (failure.refusal, .verificationRefused requester machineId failure.message)
  | .ok verified =>
    if verified.identity.isEmpty then
      .error (.verificationFailed "no identity resolved", .identityEmpty requester)
    else
      match presented with
      | none => .ok (.verified verified)
      | some session =>
        if session.identity = verified.identity then .ok (.verified verified)
        else
          .error (.notAcceptable "session identity mismatch",
            .identityMismatch requester session.token session.identity verified.identity)

/-! ## Commit -/

/-- What a commit does before it attaches the connection: the registry, the token of the session
to use, whether that token was drawn, and what was seen. -/
structure Seat where
  registry : Registry
  token : SessionToken
  drew : Bool
  notices : List Notice

/-- Finds the session to use, or creates one. -/
def seat (r : Registry) (now : Instant) (drawing : Drawing) (request : JoinRequest) :
    Grant → Except (AuthError × Log.Record) Seat
  | .reuse token =>
    match r.get? token with
    | none => .error (.sessionInvalid, .sessionVanished token)
    | some _ => .ok ⟨r, token, false, []⟩
  | .verified verified =>
    match r.findByIdentity? request.machineId verified.identity with
    | some session => .ok ⟨r, session.token, false, []⟩
    | none =>
      let made := r.create now drawing request.machineId verified.identity request.conferenceName
        verified.properties
      .ok ⟨made.registry, made.value.token, true, made.notices⟩

/-- A finished commit. -/
structure Commit where
  registry : Registry
  /-- The session in use, or why there is none. -/
  result : Except AuthError Session
  /-- Whether a token was drawn. -/
  drew : Bool
  notices : List Notice

/-- How the connection of a join is attached to the session of a token. -/
abbrev Attachment := Registry → SessionToken → Registry.Outcome (Option Session)

/-- Finds or creates the session and attaches the connection. -/
def commit (attach : Attachment) (r : Registry) (now : Instant) (drawing : Drawing)
    (request : JoinRequest) (requester : PeerAddress) (grant : Grant) : Commit :=
  match seat r now drawing request grant with
  | .error (error, record) => ⟨r, .error error, false, [.record record]⟩
  | .ok seat =>
    let attached := attach seat.registry seat.token
    match attached.value with
    | none => ⟨attached.registry, .error .sessionInvalid, seat.drew, seat.notices⟩
    | some session =>
      { registry := attached.registry
        result := .ok session
        drew := seat.drew
        notices := seat.notices ++ attached.notices ++
          [.record (.peerAuthenticated requester session.identity session.token)] }

/-- The answer to a join that got a session. -/
def response (session : Session) : JoinResponse := ⟨session.identity, session.token⟩

end Admittance.Join
