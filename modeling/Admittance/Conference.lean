import Admittance.Authority

/-!
# The ends of conferences

Whoever manages the conferences announces their ends on a channel.  The channel keeps the last
messages only, as many as its capacity; a receiver that fell behind is told how many messages it
missed and goes on with the oldest one that is kept.

While an authority runs, a hook receives the announcements.  It removes the sessions of every
conference it hears of, or only takes note of them, as the configuration says.  A lag does not
end it; the end of the channel does.
-/

namespace Admittance

/-- A channel of conference names. -/
structure Channel where
  /-- How many messages are kept; a power of two. -/
  capacity : Nat
  /-- All messages that were ever sent, the oldest first. -/
  sent : List String
  closed : Bool
  deriving DecidableEq

namespace Channel

/-- The least power of two that is not below `n`, found among the first `steps` powers from
`p`. -/
def powerAbove (n : Nat) : Nat → Nat → Nat
  | 0, p => p
  | steps + 1, p => if n ≤ p then p else powerAbove n steps (2 * p)

/-- A channel that keeps at least `capacity` messages. -/
def withCapacity (capacity : Nat) : Channel := ⟨powerAbove capacity capacity 1, [], false⟩

/-- The number of messages sent. -/
def length (c : Channel) : Nat := c.sent.length

/-- The number of the oldest message that is kept. -/
def oldest (c : Channel) : Nat := c.length - c.capacity

/-- The channel after one more message. -/
def send (c : Channel) (conferenceName : String) : Channel :=
  { c with sent := c.sent ++ [conferenceName] }

/-- The channel after its last sender is gone. -/
def close (c : Channel) : Channel := { c with closed := true }

/-- What a receiver gets. -/
inductive Received
  | message (conferenceName : String)
  /-- So many messages are lost to the receiver. -/
  | lagged (missed : Nat)
  | closed
  /-- There is nothing to receive yet. -/
  | nothing
  deriving DecidableEq

/-- What a receiver gets whose next message has number `position`, and its next position. -/
def receive (c : Channel) (position : Nat) : Received × Nat :=
  if position < c.oldest then (.lagged (c.oldest - position), c.oldest)
  else
    match c.sent[position]? with
    | some name => (.message name, position + 1)
    | none => (if c.closed then .closed else .nothing, position)

end Channel

/-- Where a hook stands. -/
inductive Hook.Phase
  /-- It has not run yet. -/
  | spawned
  | listening
  | ended
  | panicked
  deriving DecidableEq

/-- A background task that receives the ends of conferences. -/
structure Hook where
  /-- The number of the next message to receive. -/
  position : Nat
  phase : Hook.Phase
  deriving DecidableEq

namespace Hook

variable {η : Type}

/-- A new hook; it hears what is sent from now on. -/
def subscribe (c : Channel) : Hook := ⟨c.length, .spawned⟩

/-- Whether the hook still holds its receiver. -/
def isReceiving (h : Hook) : Bool := h.phase = .spawned || h.phase = .listening

/-- A hook runs for the first time. -/
def begin (h : Hook) (s : State η) : Hook × State η :=
  match h.phase with
  | .spawned => ({ h with phase := .listening }, s.log .hookSubscribed)
  | _ => (h, s)

/-- A hook hears of the end of a conference; the flag says whether it survives that. -/
def apply (eager : Bool) (s : State η) (conferenceName : String) : State η × Bool :=
  if eager then Authority.purgeEnded s conferenceName
  else (s.log (.conferenceKept conferenceName), true)

/-- A listening hook receives once. -/
def receive (h : Hook) (eager : Bool) (c : Channel) (s : State η) : Hook × State η :=
  match h.phase with
  | .listening =>
    match c.receive h.position with
    | (.message name, position) =>
      match apply eager s name with
      | (s, true) => (⟨position, .listening⟩, s)
      | (s, false) => (⟨position, .panicked⟩, s)
    | (.lagged missed, position) => (⟨position, .listening⟩, s.log (.receiverLagged missed))
    | (.closed, position) =>
      (⟨position, .ended⟩, (s.log .sourceClosed).log .hookUnsubscribed)
    | (.nothing, _) => (h, s)
  | _ => (h, s)

/-- Receives `n` times. -/
def receiveTimes (eager : Bool) (c : Channel) : Nat → Hook → State η → Hook × State η
  | 0, h, s => (h, s)
  | n + 1, h, s =>
    let (h, s) := h.receive eager c s
    receiveTimes eager c n h s

/-- Runs a hook until it waits: it can receive every unread message, a lag and the end of the
channel. -/
def run (h : Hook) (eager : Bool) (c : Channel) (s : State η) : Hook × State η :=
  let (h, s) := h.begin s
  receiveTimes eager c (c.length - h.position + 2) h s

/-- A hook that is told to stop, and what that logs. -/
def shutDown (h : Hook) (s : State η) : Hook × State η :=
  match h.phase with
  | .listening => ({ h with phase := .ended }, s.log .hookUnsubscribed)
  | .spawned => ({ h with phase := .ended }, (s.log .hookSubscribed).log .hookUnsubscribed)
  | .panicked => (h, s.log .hookPanicked)
  | .ended => (h, s)

end Hook

end Admittance
