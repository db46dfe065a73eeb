import Admittance.Proofs.Course

/-!
# What a hook hears

A receiver that asks its channel for the next message gets it, or learns how many messages are lost
to it; either way it comes further by just as many messages, and what it gets comes in order
(`Channel.Hands.account`).  The hook of a crew acts on what it gets in one of few ways, and
`Crew.HookNext` lists them together with everything else that may become of a hook: it is the only
thing that the accounts of announcements have to look at.
-/

namespace Admittance

variable {η : Type}

/-! ## What a channel hands over -/

namespace Channel

/-- The conference whose end is told, if one is. -/
def Received.name? : Received → Option String
  | message name => some name
  | _ => none

/-- How many messages are reported to be lost. -/
def Received.missed : Received → Nat
  | lagged missed => missed
  | _ => 0

/-- A name comes with a message only. -/
lemma Received.name?_eq_some {received : Received} {name : String}
    (h : received.name? = some name) : received = .message name := by
  cases received with
  | message name' => exact congrArg message (Option.some.inj h)
  | lagged | closed | nothing => cases h

variable (c : Channel) (position : Nat)

/-- What a channel hands over to a receiver, and where that leaves it. -/
inductive Hands : Received → Nat → Prop
  | message (name : String) (sent : c.sent[position]? = some name) :
      Hands (.message name) (position + 1)
  | lagged (behind : position < c.oldest) : Hands (.lagged (c.oldest - position)) c.oldest
  | closed (read : c.length ≤ position) (gone : c.closed = true) : Hands .closed position
  | nothing (read : c.length ≤ position) : Hands .nothing position

/-- A channel hands over what it has for the receiver. -/
lemma hands_receive : c.Hands position (c.receive position).1 (c.receive position).2 := by
  unfold receive
  split
  · rename_i hbehind
    exact .lagged hbehind
  · split
    · rename_i name hsent
      exact .message name hsent
    · rename_i hsent
      have hread : c.length ≤ position := List.getElem?_eq_none_iff.mp hsent
      split
      · rename_i hclosed
        exact .closed hread hclosed
      · exact .nothing hread

variable {c} {position}

/-- **What a channel hands over is accounted for**: a receiver comes further by the message that it
gets and by those that are reported to be lost, and what it gets comes in order. -/
lemma Hands.account {received : Received} {next : Nat} (h : c.Hands position received next)
    (hwithin : position ≤ c.length) : next ≤ c.length ∧
      position + received.name?.toList.length + received.missed = next ∧
      ∀ first ≤ position, ((c.sent.take position).drop first ++ received.name?.toList).Sublist
        ((c.sent.take next).drop first) := by
  cases h with
  | message name sent =>
    refine ⟨(List.getElem?_eq_some_iff.mp sent).1, rfl, ?_⟩
    intro first hfirst
    have hlength : first ≤ (c.sent.take position).length := by
      rw [List.length_take_of_le hwithin]
      exact hfirst
    rw [List.take_add_one, sent, List.drop_append_of_le_length hlength]
    exact List.Sublist.refl _
  | lagged behind =>
    refine ⟨Nat.sub_le _ _, ?_, ?_⟩
    · show position + 0 + (c.oldest - position) = c.oldest
      omega
    · intro first _
      show ((c.sent.take position).drop first ++ []).Sublist _
      rw [List.append_nil]
      exact (List.take_sublist_take_left (Nat.le_of_lt behind)).drop first
  | closed | nothing =>
    refine ⟨hwithin, rfl, ?_⟩
    intro first _
    show ((c.sent.take position).drop first ++ []).Sublist _
    rw [List.append_nil]

end Channel

/-! ## What a hook does with it -/

/-- Only a sink that breaks down keeps the end of a conference from being applied in full. -/
lemma Authority.sinkIsFragile_of_purgeEnded {s : State η} {name : String}
    (h : (purgeEnded s name).2 = false) : s.registry.sinkIsFragile = true := by
  unfold purgeEnded at h
  dsimp only at h
  split at h
  · cases h
  · rename_i hcompleted
    exact Registry.sinkIsFragile_of_not_completed (Bool.eq_false_iff.mpr hcompleted)

namespace Hook

/-- How a hook stands after what it got. -/
def phaseAfter : Channel.Received → Phase
  | .closed => .ended
  | _ => .listening

/-- The conference whose sessions a hook has to remove after what it got. -/
def grasp (eager : Bool) (received : Channel.Received) : Option String :=
  if eager then received.name? else none

/-- A hook takes a name from a message only. -/
lemma grasp_eq_some {eager : Bool} {received : Channel.Received} {name : String}
    (h : grasp eager received = some name) : received = .message name := by
  cases eager with
  | true => exact Channel.Received.name?_eq_some h
  | false => cases h

/-- What a hook logs of what it got. -/
def remarks (eager : Bool) : Channel.Received → List Log.Record
  | .message name => if eager then [] else [.conferenceKept name]
  | .lagged missed => [.receiverLagged missed]
  | .closed => [.sourceClosed, .hookUnsubscribed]
  | .nothing => []

/-- A hook that listens gets one thing from its channel, and makes of it what there is to make. -/
lemma hear_of_listening {h : Hook} (hphase : h.phase = .listening) (eager : Bool) (c : Channel)
    (s : State η) : h.hear eager c s =
      (⟨(c.receive h.position).2, phaseAfter (c.receive h.position).1⟩,
        grasp eager (c.receive h.position).1,
        s.note ((remarks eager (c.receive h.position).1).map .record)) := by
  obtain ⟨position, phase⟩ := h
  obtain rfl : phase = .listening := hphase
  have hhands := c.hands_receive position
  simp only [hear]
  rcases hreceived : c.receive position with ⟨received, next⟩
  rw [hreceived] at hhands
  cases received with
  | message name =>
    cases eager with
    | true => simp [phaseAfter, grasp, remarks, State.note, Channel.Received.name?]
    | false => rfl
  | lagged missed => simp [phaseAfter, grasp, remarks, State.log, Channel.Received.name?]
  | closed => simp [phaseAfter, grasp, remarks, State.log, State.note, Channel.Received.name?]
  | nothing =>
    cases hhands
    simp [phaseAfter, grasp, remarks, State.note, Channel.Received.name?]

/-- A hook that does not listen hears nothing. -/
lemma hear_of_not_listening {h : Hook} (hphase : h.phase ≠ .listening) (eager : Bool) (c : Channel)
    (s : State η) : h.hear eager c s = (h, none, s) := by
  cases hphase' : h.phase with
  | listening => exact absurd hphase' hphase
  | spawned | ended | panicked => simp only [hear, hphase']

/-- A hook that holds its receiver listens as soon as its task has run. -/
lemma begin_of_isReceiving {h : Hook} (hreceiving : h.isReceiving = true) (s : State η) :
    (h.begin s).1 = ⟨h.position, .listening⟩ := by
  obtain ⟨position, phase⟩ := h
  cases phase with
  | spawned | listening => rfl
  | ended | panicked => cases hreceiving

/-- A hook that has ended does not begin again. -/
lemma begin_of_not_isReceiving {h : Hook} (hreceiving : h.isReceiving = false) (s : State η) :
    h.begin s = (h, s) := by
  cases hphase : h.phase with
  | spawned | listening => simp [isReceiving, hphase] at hreceiving
  | ended | panicked => simp only [begin, hphase]

end Hook

/-! ## What a crew hears -/

namespace Crew

variable (crew : Crew) (eager : Bool) (source : Option Channel) (s : State η)

/-- The hook that receives when its task runs. -/
def listener? : Option Hook :=
  match crew.duty.hook?, crew.hand with
  | some hook, none => if crew.duty.mayHear && hook.isReceiving then some hook else none
  | _, _ => none

/-- The number of the message that a hook asks for when its task runs, and what it gets. -/
def receives? : Option (Nat × Channel.Received) := do
  let hook ← crew.listener?
  let channel ← source
  return (hook.position, (channel.receive hook.position).1)

variable {crew} {hook : Hook}

/-- A crew's hook gets something if it is there, holds no name and has not ended. -/
lemma listener?_eq_some : crew.listener? = some hook ↔
    crew.duty.hook? = some hook ∧ crew.hand = none ∧ crew.duty.mayHear = true ∧
      hook.isReceiving = true := by
  unfold listener?
  split
  · rename_i hook' hhook hhand
    rw [hhook, hhand, Option.some.injEq]
    constructor
    · intro h
      split at h
      · rename_i hmay
        obtain rfl : hook' = hook := Option.some.inj h
        exact ⟨rfl, rfl, (Bool.and_eq_true_iff.mp hmay).1, (Bool.and_eq_true_iff.mp hmay).2⟩
      · cases h
    · rintro ⟨rfl, -, hmay, hreceiving⟩
      rw [hmay, hreceiving]
      rfl
  · rename_i hnone
    constructor
    · intro h
      cases h
    · rintro ⟨hhook, hhand, -⟩
      exact absurd hhand (hnone hook hhook)

/-- A crew whose hook receives nothing stays as it is when the hook's task runs. -/
lemma hear_of_listener?_eq_none (h : crew.listener? = none) :
    crew.hear eager source s = (crew, s) := by
  unfold hear
  split
  · rename_i hook channel hhook hhand
    split
    · rename_i hmay
      have hreceiving : hook.isReceiving = false := by
        by_contra hreceiving
        have hlistens := listener?_eq_some.mpr
          ⟨hhook, hhand, hmay, Bool.not_eq_false _ ▸ hreceiving⟩
        rw [h] at hlistens
        cases hlistens
      have hphase : hook.phase ≠ .listening := by
        intro hphase
        simp [Hook.isReceiving, hphase] at hreceiving
      simp only [Hook.begin_of_not_isReceiving hreceiving, Hook.hear_of_not_listening hphase,
        Duty.withHook_of_hook? hhook, ← hhand]
    · rfl
  · rfl

/-- The turn of such a hook is to subscribe if need be, and to get one thing from its channel. -/
lemma hear_of_listener? (h : crew.listener? = some hook) (channel : Channel) :
    crew.hear eager (some channel) s =
      (⟨crew.duty.withHook ⟨(channel.receive hook.position).2,
          Hook.phaseAfter (channel.receive hook.position).1⟩,
        Hook.grasp eager (channel.receive hook.position).1⟩,
        (hook.begin s).2.note
          ((Hook.remarks eager (channel.receive hook.position).1).map .record)) := by
  obtain ⟨hhook, hhand, hmay, hreceiving⟩ := listener?_eq_some.mp h
  have hbegun := Hook.begin_of_isReceiving hreceiving s
  simp only [hear, hhook, hhand, hmay, if_true]
  rw [Hook.hear_of_listening (by rw [hbegun]), hbegun]

/-- Without a channel a hook hears nothing. -/
lemma hear_of_no_source : crew.hear eager none s = (crew, s) := by
  unfold hear
  split
  · rename_i hsource _
    cases hsource
  · rfl

/-! ### What becomes of the hook -/

/-- A stop that comes further takes no name out of a hook's hand. -/
lemma hand_proceed : (crew.proceed s).1.hand = crew.hand := by
  unfold proceed
  split <;> rfl

/-- A stop leaves the hook as it is until it has seen its end. -/
lemma hook?_proceed (h : (crew.proceed s).1.duty.hook? = some hook) :
    crew.duty.hook? = some hook := by
  obtain ⟨duty, hand⟩ := crew
  cases duty with
  | serving tasks => exact h
  | leaving stop told =>
    cases stop with
    | sweeper w hook' =>
      simp only [proceed, Service.continueStop, Service.awaitSweeper] at h
      split at h
      · exact h
      · exact h
    | hook hook' =>
      cases hand with
      | none => cases h
      | some name => exact h
    | finished => cases h

/-- A stop does not see the end of a hook that holds a name. -/
lemma proceed_hook?_of_hand {name : String} (hhand : crew.hand = some name)
    (hhook : crew.duty.hook? = some hook) : (crew.proceed s).1.duty.hook? = some hook := by
  obtain ⟨duty, hand⟩ := crew
  obtain rfl : hand = some name := hhand
  cases duty with
  | serving tasks => exact hhook
  | leaving stop told =>
    cases stop with
    | sweeper w hook' =>
      simp only [proceed, Service.continueStop, Service.awaitSweeper]
      split
      · exact hhook
      · exact hhook
    | hook hook' => exact hhook
    | finished => exact hhook

/-- A stop that takes a crew leaves its hook as it is. -/
lemma hook?_taken {tasks : Tasks} (serves : crew.duty = .serving tasks) :
    (crew.taken tasks).duty.hook? = crew.duty.hook? := by
  rw [serves]
  rfl

/-- A tick of a crew's sweeper leaves its hook as it is. -/
lemma hook?_tick (now : Instant) :
    (crew.tick now).duty.hook? = crew.duty.hook? ∧ (crew.tick now).hand = crew.hand := by
  unfold tick
  split
  · split
    · exact ⟨Duty.hook?_withSweeper _ _, rfl⟩
    · exact ⟨rfl, rfl⟩
  · exact ⟨rfl, rfl⟩

/-- A sweep of a crew's sweeper leaves its hook as it is. -/
lemma hook?_sweep : (crew.sweep s).1.duty.hook? = crew.duty.hook? ∧
    (crew.sweep s).1.hand = crew.hand := by
  unfold sweep
  split
  · exact ⟨Duty.hook?_withSweeper _ _, rfl⟩
  · exact ⟨rfl, rfl⟩

/-- How the hook of a crew comes further by an act. -/
inductive HookNext (a : Authority η) (d : Deployment η) (n : Nat) (crew : Crew) :
    Option Act → Crew → Prop
  /-- The act is not about the hook, unless a stop sees its end. -/
  | still (act : Option Act) (crew' : Crew) (unheard : act ≠ some (.task n .hear))
      (unpurged : act ≠ some (.task n .purge)) (hand : crew'.hand = crew.hand)
      (kept : ∀ hook, crew'.duty.hook? = some hook → crew.duty.hook? = some hook)
      (held : ∀ name hook, crew.hand = some name → crew.duty.hook? = some hook →
        crew'.duty.hook? = some hook) : HookNext a d n crew act crew'
  | deaf (nothing : crew.receives? d.source = none) :
      HookNext a d n crew (some (.task n .hear)) crew
  | received (hook : Hook) (channel : Channel) (listens : crew.listener? = some hook)
      (source : d.source = some channel) : HookNext a d n crew (some (.task n .hear))
        ⟨crew.duty.withHook ⟨(channel.receive hook.position).2,
            Hook.phaseAfter (channel.receive hook.position).1⟩,
          Hook.grasp a.config.destroyOnConferenceEnd (channel.receive hook.position).1⟩
  | purged (hook : Hook) (name : String) (hook_eq : crew.duty.hook? = some hook)
      (hand : crew.hand = some name) : HookNext a d n crew (some (.task n .purge))
        ⟨crew.duty.withHook (hook.purge name d.world.state).1, none⟩
  | empty (nothing : ∀ hook name, crew.duty.hook? = some hook → crew.hand ≠ some name) :
      HookNext a d n crew (some (.task n .purge)) crew

/-- **What becomes of the hook of a crew** in one act. -/
theorem Next.hookNext {a : Authority η} {d : Deployment η} {n : Nat} {act : Option Act}
    {crew' : Crew} (h : Next a d n crew act crew') : HookNext a d n crew act crew' := by
  cases h with
  | same act other =>
    exact .still act crew (other .hear) (other .purge) rfl (fun _ hhook => hhook)
      fun _ _ _ hhook => hhook
  | taken tasks serves =>
    exact .still _ _ (by simp) (by simp) rfl (fun _ hhook => hook?_taken serves ▸ hhook)
      fun _ _ _ hhook => (hook?_taken serves).trans hhook
  | turned turn =>
    cases turn with
    | tick =>
      obtain ⟨hhook, hhand⟩ := crew.hook?_tick d.world.state.now
      exact .still _ _ (by simp) (by simp) hhand (fun _ h => hhook ▸ h) fun _ _ _ h => hhook.trans h
    | sweep =>
      obtain ⟨hhook, hhand⟩ := crew.hook?_sweep d.world.state
      exact .still _ _ (by simp) (by simp) hhand (fun _ h => hhook ▸ h) fun _ _ _ h => hhook.trans h
    | proceed =>
      exact .still _ _ (by simp) (by simp) (hand_proceed _) (fun _ h => hook?_proceed _ h)
        fun _ _ hhand hhook => proceed_hook?_of_hand _ hhand hhook
    | hear =>
      rw [take]
      cases hlistener : crew.listener? with
      | none =>
        rw [hear_of_listener?_eq_none _ _ _ hlistener]
        exact .deaf (by rw [receives?, hlistener]; rfl)
      | some hook =>
        cases hsource : d.source with
        | none =>
          rw [hear_of_no_source]
          exact .deaf (by rw [receives?, hlistener, hsource]; rfl)
        | some channel =>
          rw [hear_of_listener? _ _ hlistener]
          exact .received hook channel hlistener hsource
    | purge =>
      simp only [take, purge]
      split
      · rename_i hook name hhook hhand
        exact .purged hook name hhook hhand
      · rename_i hnothing
        exact .empty fun hook name hhook hhand => hnothing hook name hhook hhand

end Crew

end Admittance
