import Admittance.Notice

/-!
# Listeners

Hosts register listeners to learn which identity stands behind a connection.  A notification goes
to the listeners that are registered when it begins, each once and in order of registration,
whatever they do meanwhile: a listener may register or remove listeners, which counts from the
next notification on, and it may panic, which is logged and keeps nobody else from being called.
-/

namespace Admittance

/-- A listener is known to the host by a name. -/
abbrev ListenerId := String

/-- What a panicking listener leaves behind: a text, or something else. -/
inductive PanicPayload
  | text (s : String)
  | other
  deriving DecidableEq, Repr

/-- The wording of a panic. -/
def PanicPayload.message : PanicPayload → String
  | text s => s
  | other => "<non-string panic payload>"

/-- A registration or removal that a listener asks for. -/
inductive ListenerChange
  | add (listener : ListenerId)
  | remove (listener : ListenerId)
  deriving DecidableEq, Repr

/-- How a listener reacts to a call: the host's own state after it, the changes it asked for, and
how it panicked if it did. -/
structure Reaction (η : Type) where
  host : η
  changes : List ListenerChange
  panic : Option PanicPayload

/-- The registered listeners in order of registration, none of them twice. -/
structure ListenerSet where
  listeners : List ListenerId
  nodup : listeners.Nodup := by decide

namespace ListenerSet

/-- No listeners. -/
def empty : ListenerSet := ⟨[], List.nodup_nil⟩

/-- Registers a listener behind all others, unless it is registered already. -/
def add (set : ListenerSet) (l : ListenerId) : ListenerSet × Bool :=
  if h : l ∈ set.listeners then (set, false)
  else
    (⟨set.listeners ++ [l], List.nodup_append.2 ⟨set.nodup, by simp, fun a ha b hb hab =>
      h (by rw [← List.mem_singleton.1 hb, ← hab]; exact ha)⟩⟩, true)

/-- Removes a listener, and says whether it was registered. -/
def remove (set : ListenerSet) (l : ListenerId) : ListenerSet × Bool :=
  (⟨set.listeners.erase l, set.nodup.erase l⟩, decide (l ∈ set.listeners))

/-- Makes one change, and says what came of it. -/
def change (set : ListenerSet) : ListenerChange → ListenerSet × Notice
  | .add l => let (set, changed) := set.add l; (set, .relisted true l changed)
  | .remove l => let (set, changed) := set.remove l; (set, .relisted false l changed)

/-- Makes changes in order. -/
def changeAll (set : ListenerSet) : List ListenerChange → ListenerSet × List Notice
  | [] => (set, [])
  | c :: cs =>
    let (set, notice) := set.change c
    let (set, notices) := set.changeAll cs
    (set, notice :: notices)

/-- What a notification says. -/
structure News where
  peer : PeerAddress
  identity : String
  token : SessionToken
  deriving DecidableEq

/-- The log record of a panic. -/
def panicNotices (index : Nat) (news : News) : Option PanicPayload → List Notice
  | none => []
  | some payload => [.record (.listenerPanicked index news.peer payload.message)]

/-- Calls the given listeners in order; the first of them has number `index`. -/
def call {η : Type} (react : η → ListenerId → Reaction η) (news : News) :
    Nat → List ListenerId → η → ListenerSet → η × ListenerSet × List Notice
  | _, [], host, set => (host, set, [])
  | index, l :: rest, host, set =>
    let reaction := react host l
    let (set, changed) := set.changeAll reaction.changes
    let (host, set, later) := call react news (index + 1) rest reaction.host set
    (host, set, .heard l news.peer news.identity news.token ::
      (changed ++ panicNotices index news reaction.panic ++ later))

/-- Tells every registered listener. -/
def notify {η : Type} (react : η → ListenerId → Reaction η) (news : News) (host : η)
    (set : ListenerSet) : η × ListenerSet × List Notice :=
  call react news 0 set.listeners host set

end ListenerSet

end Admittance
