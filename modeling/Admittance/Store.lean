import Admittance.Registry

/-!
# Sessions under keys

A `Registry` knows every session by the token that the session itself has.  What holds the sessions
is a map from tokens to sessions, though, and a map knows a session by the key that it was put
under.  Key and token are two copies of one text, and nothing in a `Store` keeps them the same: a
store only promises what every map does, that no key comes twice.

Which of the two counts is different from one operation to the next.  What is looked up, updated,
overwritten or removed is found by its key; what is searched for, listed or reported is known by
what the session says of itself.  The entries come up in some order, which nobody promises.
-/

namespace Admittance

/-- A map from tokens to sessions, and who hears of its changes. -/
@[ext]
structure Store where
  entries : List (SessionToken × Session)
  sink : Option Sink
  keys_nodup : (entries.map Prod.fst).Nodup

namespace Store

/-- What an operation leaves behind. -/
structure Outcome (α : Type) where
  store : Store
  value : α
  notices : List Notice

/-- The store without sessions. -/
def empty (sink : Option Sink) : Store := ⟨[], sink, List.nodup_nil⟩

/-- The keys, in the order in which their entries come up. -/
def keys (m : Store) : List SessionToken := m.entries.map Prod.fst

/-- The sessions, in the order in which their entries come up. -/
def values (m : Store) : List Session := m.entries.map Prod.snd

/-! ## Searching -/

/-- The session under a key. -/
def get? (m : Store) (key : SessionToken) : Option Session :=
  (m.entries.find? (·.1 = key)).map Prod.snd

/-- The session of a machine and an identity.  The empty machine and the empty identity have
none. -/
def findByIdentity? (m : Store) (machineId identity : String) : Option Session :=
  if machineId.isEmpty || identity.isEmpty then none
  else m.values.find? fun s => s.identity = identity && s.machineId = machineId

/-- The session that a connection uses.  The empty address uses none. -/
def findByPeer? (m : Store) (peer : PeerAddress) : Option Session :=
  if peer.isEmpty then none else m.values.find? (·.peer = some peer)

/-! ## The map itself -/

/-- Changes sessions where they are. -/
def update (m : Store) (change : SessionToken → Session → Session) : Store where
  entries := m.entries.map fun e => (e.1, change e.1 e.2)
  sink := m.sink
  keys_nodup := by
    rw [List.map_map]
    exact m.keys_nodup

/-- Takes out what is under a key. -/
def without (m : Store) (key : SessionToken) : Store where
  entries := m.entries.filter (·.1 ≠ key)
  sink := m.sink
  keys_nodup := (List.filter_sublist.map Prod.fst).nodup m.keys_nodup

/-- Puts a session under a key that nothing is under. -/
def push (m : Store) (key : SessionToken) (s : Session) (h : key ∉ m.keys) : Store where
  entries := m.entries ++ [(key, s)]
  sink := m.sink
  keys_nodup := by
    rw [List.map_append]
    refine List.nodup_append.mpr ⟨m.keys_nodup, by simp, fun k hk l hl heq => h ?_⟩
    obtain rfl : l = key := List.mem_singleton.mp hl
    exact heq ▸ hk

/-- Puts a session under a key, unless there is one already; then the old one stays.  The result is
the session that is under the key now. -/
def insertIfNew (m : Store) (key : SessionToken) (s : Session) : Store × Session :=
  if h : key ∈ m.keys then (m, (m.get? key).getD s) else (m.push key s h, s)

/-! ## Changing -/

/-- Opens a session under a fresh token. -/
def create (m : Store) (now : Instant) (drawing : Drawing)
    (machineId identity conferenceName : String) (properties : TextMap) : Outcome Session :=
  let token := drawing.result m.keys
  let inserted := m.insertIfNew token (.opened token machineId identity conferenceName now)
  { store := inserted.1
    value := inserted.2
    notices := (drawing.records m.keys machineId identity conferenceName).map .record ++
      Event.reportedTo (.created token identity machineId properties) m.sink }

/-- Takes the connection away from every session that uses it and has another token. -/
def free (m : Store) (token : SessionToken) (peer : PeerAddress) : Store :=
  m.update fun _ s => if Registry.isRival token peer s then s.detached else s

/-- Lets a connection use the session under a key. -/
def attach (m : Store) (now : Instant) (token : SessionToken) (peer : PeerAddress) :
    Outcome (Option Session) :=
  if token ∈ m.keys then
    let freed := m.free token peer
    { store := freed.update fun key s => if key = token then s.usedBy peer now else s
      value := (freed.get? token).map (·.usedBy peer now)
      notices := (m.values.filter (Registry.isRival token peer)).map fun s =>
        .record (.peerDetached s.token peer) }
  else ⟨m, none, []⟩

/-- Removes the session under a key, and says whether there was one. -/
def destroy (m : Store) (token : SessionToken) : Outcome Bool :=
  match m.get? token with
  | none => ⟨m, false, []⟩
  | some session =>
    { store := m.without token
      value := true
      notices := .record (.sessionDestroyed session) ::
        (Event.removal session .destroyed).reportedTo m.sink }

/-- Removes what is under some keys, one key after the other.  A fragile sink ends the removal at
the first session, which is gone by then. -/
def removeEach (reason : RemovalReason) : List SessionToken → Store → Outcome Registry.Removal
  | [], m => ⟨m, ⟨[], true⟩, []⟩
  | key :: rest, m =>
    match m.get? key with
    | none => removeEach reason rest m
    | some session =>
      if m.sink.any Sink.fragile then
        ⟨m.without key, ⟨[key], false⟩, [.record (.sessionRemoved session reason)]⟩
      else
        let later := removeEach reason rest (m.without key)
        { store := later.store
          value := ⟨key :: later.value.tokens, later.value.completed⟩
          notices := .record (.sessionRemoved session reason) ::
            (Event.removal session reason).reportedTo m.sink ++ later.notices }

/-- Removes every doomed session: their tokens are listed first, and then what is under each of them
is removed.  A removal that comes to its end answers the list. -/
def removeWhere (m : Store) (reason : RemovalReason) (doomed : Session → Bool) :
    Outcome Registry.Removal :=
  let listed := (m.values.filter doomed).map Session.token
  let removal := removeEach reason listed m
  { removal with value := if removal.value.completed then ⟨listed, true⟩ else removal.value }

/-- Removes every session of a conference. -/
def purge (m : Store) (conferenceName : String) : Outcome Registry.Removal :=
  m.removeWhere .conferenceEnded (·.conferenceName = conferenceName)

/-- Removes every session that has been idle for longer than `lifetime` at `now`. -/
def sweep (m : Store) (now : Instant) (lifetime : Duration) : Outcome Registry.Removal :=
  m.removeWhere .expired (·.isExpired now lifetime)

end Store

end Admittance
