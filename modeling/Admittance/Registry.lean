import Admittance.Drawing
import Admittance.Notice

/-!
# The registry of live sessions

A registry is the list of all live sessions, in the order in which they were created, and the
sink that hears of their creation and removal.  No two of the sessions have the same token.  Every
operation gives the new registry, its own result, and what the outside saw of it.

The order of the list is an order in which the registry may be searched.  Two searches depend on
it only when several sessions match, and an authority never lets that happen.
-/

namespace Admittance

/-- What the log says of a new session when these tokens are in use. -/
def Drawing.records (drawing : Drawing) (used : List SessionToken)
    (machineId identity conferenceName : String) : List Log.Record :=
  List.replicate (drawing.collisions used) .tokenCollision ++
    [.sessionCreated (drawing.result used) identity machineId conferenceName]

/-- All live sessions, and who hears of them. -/
structure Registry where
  sessions : List Session
  sink : Option Sink
  tokens_nodup : (sessions.map Session.token).Nodup
  deriving DecidableEq

namespace Registry

/-- What an operation leaves behind. -/
structure Outcome (α : Type) where
  registry : Registry
  value : α
  notices : List Notice

/-- The registry without sessions. -/
def empty (sink : Option Sink) : Registry := ⟨[], sink, List.nodup_nil⟩

/-! ## Searching -/

/-- The session of a token. -/
def get? (r : Registry) (token : SessionToken) : Option Session :=
  r.sessions.find? (·.token = token)

/-- The sessions of a machine and an identity.  The empty machine and the empty identity have
none. -/
def ofIdentity (r : Registry) (machineId identity : String) : List Session :=
  if machineId.isEmpty || identity.isEmpty then []
  else r.sessions.filter fun s => s.identity = identity && s.machineId = machineId

/-- The session of a machine and an identity. -/
def findByIdentity? (r : Registry) (machineId identity : String) : Option Session :=
  (r.ofIdentity machineId identity).head?

/-- The session that a connection uses.  The empty address uses none. -/
def findByPeer? (r : Registry) (peer : PeerAddress) : Option Session :=
  if peer.isEmpty then none else r.sessions.find? (·.peer = some peer)

/-- The number of live sessions. -/
def size (r : Registry) : Nat := r.sessions.length

/-- A line that describes the registry. -/
def text (r : Registry) : String :=
  "SessionRegistry \x7b sessions: " ++ toString r.size ++ ", has_sink: " ++
    Log.Record.boolText r.sink.isSome ++ " \x7d"

/-! ## Changing -/

/-- What is seen when an event is reported. -/
def report (r : Registry) (e : Event) : List Notice := e.reportedTo r.sink

/-- The token of a new session. -/
def freshToken (r : Registry) (drawing : Drawing) : SessionToken :=
  drawing.result (r.sessions.map Session.token)

/-- The registry with one more session. -/
def add (r : Registry) (s : Session) (h : s.token ∉ r.sessions.map Session.token) : Registry where
  sessions := r.sessions ++ [s]
  sink := r.sink
  tokens_nodup := by
    rw [List.map_append]
    exact List.nodup_append.mpr ⟨r.tokens_nodup, by simp, fun t ht u hu heq =>
      h (List.mem_singleton.mp hu ▸ heq ▸ ht)⟩

/-- What the log says of a new session, and of the tokens that came up in vain for it. -/
def creationRecords (r : Registry) (drawing : Drawing)
    (machineId identity conferenceName : String) : List Log.Record :=
  drawing.records (r.sessions.map Session.token) machineId identity conferenceName

/-- Opens a session under a fresh token. -/
def create (r : Registry) (now : Instant) (drawing : Drawing)
    (machineId identity conferenceName : String) (properties : TextMap) : Outcome Session :=
  let session := Session.opened (r.freshToken drawing) machineId identity conferenceName now
  { registry := r.add session (drawing.result_not_mem _)
    value := session
    notices := (r.creationRecords drawing machineId identity conferenceName).map .record ++
      r.report (.created session.token identity machineId properties) }

/-- Whether a session other than the one of `token` is used by `peer`. -/
def isRival (token : SessionToken) (peer : PeerAddress) (s : Session) : Bool :=
  s.token ≠ token && s.peer = some peer

/-- A session after `peer` turned to the session of `token`. -/
def reattached (now : Instant) (token : SessionToken) (peer : PeerAddress) (s : Session) :
    Session :=
  if s.token = token then s.usedBy peer now
  else if s.peer = some peer then s.detached
  else s

/-- An attachment keeps the token of every session. -/
theorem reattached_token (now : Instant) (token : SessionToken) (peer : PeerAddress)
    (s : Session) : (reattached now token peer s).token = s.token := by
  unfold reattached
  split
  · rfl
  · split <;> rfl

/-- The registry after `peer` turned to the session of `token`. -/
def reattach (r : Registry) (now : Instant) (token : SessionToken) (peer : PeerAddress) :
    Registry where
  sessions := r.sessions.map (reattached now token peer)
  sink := r.sink
  tokens_nodup := by
    have hsame : Session.token ∘ reattached now token peer = Session.token :=
      funext (reattached_token now token peer)
    rw [List.map_map, hsame]
    exact r.tokens_nodup

/-- Lets a connection use the session of a token; every other session that it used before loses
it.  Nothing happens when there is no such session. -/
def attach (r : Registry) (now : Instant) (token : SessionToken) (peer : PeerAddress) :
    Outcome (Option Session) :=
  match r.get? token with
  | none => ⟨r, none, []⟩
  | some session =>
    { registry := r.reattach now token peer
      value := some (session.usedBy peer now)
      notices := (r.sessions.filter (isRival token peer)).map fun s =>
        .record (.peerDetached s.token peer) }

/-- The registry with fewer sessions. -/
def restrict (r : Registry) (sessions : List Session) (h : sessions.Sublist r.sessions) :
    Registry where
  sessions := sessions
  sink := r.sink
  tokens_nodup := (h.map Session.token).nodup r.tokens_nodup

/-- Removes the session of a token, and says whether there was one. -/
def destroy (r : Registry) (token : SessionToken) : Outcome Bool :=
  match r.get? token with
  | none => ⟨r, false, []⟩
  | some session =>
    { registry := r.restrict (r.sessions.filter (·.token ≠ token)) List.filter_sublist
      value := true
      notices := .record (.sessionDestroyed session) ::
        r.report (Event.removal session .destroyed) }

/-- The sessions that a removal took, and whether it came to its end. -/
structure Removal where
  tokens : List SessionToken
  completed : Bool
  deriving DecidableEq

/-- What is seen when a session is removed unasked. -/
def removalNotices (r : Registry) (reason : RemovalReason) (s : Session) : List Notice :=
  .record (.sessionRemoved s reason) :: r.report (Event.removal s reason)

/-- Whether the sink breaks down on a removal that nobody asked for by name. -/
def sinkIsFragile (r : Registry) : Bool :=
  match r.sink with
  | some sink => sink.fragile
  | none => false

/-- Removes every doomed session.  A fragile sink ends the removal at its first session, which is
gone by then. -/
def removeWhere (r : Registry) (reason : RemovalReason) (doomed : Session → Bool) :
    Outcome Removal :=
  if r.sinkIsFragile then
    match r.sessions.find? doomed with
    | none => ⟨r, ⟨[], true⟩, []⟩
    | some first =>
      { registry := r.restrict (r.sessions.erase first) List.erase_sublist
        value := ⟨[first.token], false⟩
        notices := [.record (.sessionRemoved first reason)] }
  else
    { registry := r.restrict (r.sessions.filter fun s => !doomed s) List.filter_sublist
      value := ⟨(r.sessions.filter doomed).map (·.token), true⟩
      notices := (r.sessions.filter doomed).flatMap (r.removalNotices reason) }

/-- Removes every session of a conference. -/
def purge (r : Registry) (conferenceName : String) : Outcome Removal :=
  r.removeWhere .conferenceEnded (·.conferenceName = conferenceName)

/-- Removes every session that has been idle for longer than `lifetime` at `now`. -/
def sweep (r : Registry) (now : Instant) (lifetime : Duration) : Outcome Removal :=
  r.removeWhere .expired (·.isExpired now lifetime)

end Registry

end Admittance
