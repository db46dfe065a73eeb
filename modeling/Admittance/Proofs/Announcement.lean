import Admittance.Proofs.Hearing
import Admittance.Proofs.Report
import Mathlib.Algebra.BigOperators.Group.List.Basic
import Mathlib.Algebra.GroupWithZero.Nat

/-!
# No end of a conference is lost silently

A hook may be slower than the announcements, and its channel keeps only the last of them.  Still
every announcement since the hook subscribed is accounted for: the hook applied it, or counted it in
a lag that it reported, or it waits in the channel (`Course.NothingLost`).  The invariant is the
`Tally` of a crew: the number of the next message that its hook receives is the number of its first
one, plus what it has heard, plus what it has missed; and what it has heard is, in order, part of
what was announced up to that number.

Applying the end of a conference removes all sessions of that conference and no others, however many
calls came in between.  A hook that is to keep the sessions never changes the registry.
-/

namespace Admittance

variable {η : Type}

namespace Course

variable (c : Course η) (n k : Nat)

/-- All that the source has sent when act `k` comes. -/
def sent : List String := (c.before k).sent

/-- The conference whose end is announced in act `k`; it takes a source that has not gone away. -/
def announces? : Option String :=
  match c.acts[k]? with
  | some (.announce name _) => if (c.before k).source.any (!·.closed) then some name else none
  | _ => none

/-- The conferences whose ends are announced from act `j` on and before act `k`. -/
def announced (j k : Nat) : List String := ((List.range k).drop j).filterMap c.announces?

/-- What the hook of crew `n` gets in act `k`, and the number of the message that it asks for. -/
def receives? : Option (Nat × Channel.Received) :=
  match c.acts[k]? with
  | some (.task m .hear) =>
    if m = n then (c.crew? n k).bind (·.receives? (c.before k).source) else none
  | _ => none

/-- The conference of whose end the hook of crew `n` hears in act `k`. -/
def hears? : Option String := (c.receives? n k).bind (·.2.name?)

/-- How many messages the hook of crew `n` learns that it missed in act `k`. -/
def misses : Nat := ((c.receives? n k).map (·.2.missed)).getD 0

/-- The conference whose end the hook of crew `n` applies in act `k`.  A hook that is to remove the
sessions does so when it gets the registry, and one that is to keep them at once. -/
def applies? : Option String :=
  match c.acts[k]? with
  | some (.task m .purge) => if m = n then (c.crew? n k).bind (·.hand) else none
  | _ => if c.authority.config.destroyOnConferenceEnd then none else c.hears? n k

/-- The conferences of whose ends the hook of crew `n` has heard before act `k`. -/
def heard : List String := (List.range k).filterMap (c.hears? n)

/-- The conferences whose ends the hook of crew `n` has applied before act `k`. -/
def applied : List String := (List.range k).filterMap (c.applies? n)

/-- How many messages the hook of crew `n` has learned that it missed before act `k`. -/
def missed : Nat := ((List.range k).map (c.misses n)).sum

/-- What a hook has heard grows by what it hears at this act. -/
lemma heard_succ : c.heard n (k + 1) = c.heard n k ++ (c.hears? n k).toList := by
  rw [heard, List.range_succ, List.filterMap_append]
  rfl

/-- What a hook has applied grows by what it applies at this act. -/
lemma applied_succ : c.applied n (k + 1) = c.applied n k ++ (c.applies? n k).toList := by
  rw [applied, List.range_succ, List.filterMap_append]
  rfl

/-- What a hook has missed grows by what it misses at this act. -/
lemma missed_succ : c.missed n (k + 1) = c.missed n k + c.misses n k := by
  simp [missed, List.range_succ]

/-! ### The source -/

/-- There is a channel from the start or never. -/
lemma isSome_source : (c.before k).source.isSome = c.source.isSome := by
  induction k with
  | zero => rfl
  | succ k ih =>
    have hleaves := c.leaves k
    generalize c.acts[k]? = act, c.before (k + 1) = d at hleaves ⊢
    rw [← ih]
    cases hleaves with
    | announced => exact Option.isSome_map
    | closed => exact Option.isSome_map
    | nothing | requested | unheard | found | started | taken | turned => rfl

/-- What has been sent stays sent. -/
lemma sent_grows_succ : c.sent k <+: c.sent (k + 1) := by
  have hleaves := c.leaves k
  rw [sent, sent]
  generalize c.acts[k]? = act, c.before (k + 1) = d at hleaves ⊢
  cases hleaves with
  | announced name =>
    cases hsource : (c.before k).source with
    | none => simp [Deployment.sent, hsource]
    | some channel => simp [Deployment.sent, hsource, Channel.send]
  | closed =>
    cases hsource : (c.before k).source with
    | none => simp [Deployment.sent, hsource]
    | some channel => simp [Deployment.sent, hsource, Channel.close]
  | nothing | requested | unheard | found | started | taken | turned => exact List.prefix_rfl

/-- What was sent stays sent. -/
lemma sent_grows {i k : Nat} (hik : i ≤ k) : c.sent i <+: c.sent k := by
  induction k, hik using Nat.le_induction with
  | base => exact List.prefix_rfl
  | succ k _ ih => exact ih.trans (c.sent_grows_succ k)

/-- A source that has gone away sends nothing any more. -/
lemma sent_succ_of_isClosed (h : (c.before k).isClosed = true) :
    (c.before (k + 1)).isClosed = true ∧ c.sent (k + 1) = c.sent k := by
  have hleaves := c.leaves k
  rw [sent, sent]
  generalize c.acts[k]? = act, c.before (k + 1) = d at hleaves ⊢
  cases hleaves with
  | announced _ _ isOpen =>
    rw [h] at isOpen
    cases isOpen
  | closed =>
    cases hsource : (c.before k).source with
    | none => simp [Deployment.isClosed, hsource] at h
    | some channel => exact ⟨by simp [Deployment.isClosed, Channel.close],
        by simp [Deployment.sent, hsource, Channel.close]⟩
  | nothing | requested | unheard | found | started | taken | turned => exact ⟨h, rfl⟩

/-! ### What an act adds -/

section

variable {c} {n k} {crew crew' : Crew}

/-- A hook gets nothing from its channel unless it has its turn. -/
lemma receives?_of_other (h : c.acts[k]? ≠ some (.task n .hear)) : c.receives? n k = none := by
  unfold receives?
  split
  · rename_i m hact
    refine if_neg ?_
    rintro rfl
    exact h hact
  · rfl

/-- A hook that gets nothing hears of no end. -/
lemma hears?_of_receives? (h : c.receives? n k = none) : c.hears? n k = none := by
  rw [hears?, h, Option.bind_none]

/-- A hook that gets nothing hears of no lag. -/
lemma misses_of_receives? (h : c.receives? n k = none) : c.misses n k = 0 := by
  rw [misses, h, Option.map_none, Option.getD_none]

/-- A hook that hears nothing applies nothing unless it gets the registry. -/
lemma applies?_of_other (h : c.acts[k]? ≠ some (.task n .purge))
    (hreceives : c.receives? n k = none) : c.applies? n k = none := by
  unfold applies?
  split
  · rename_i m hact
    refine if_neg ?_
    rintro rfl
    exact h hact
  · rw [hears?_of_receives? hreceives, ite_self]

/-- A hook that has its turn gets what is next for it in its channel. -/
lemma receives?_of_hear (hact : c.acts[k]? = some (.task n .hear))
    (hcrew : c.crew? n k = some crew) : c.receives? n k = crew.receives? (c.before k).source := by
  simp only [receives?, hact, if_true, hcrew, Option.bind_some]

/-- Only a hook that listens receives anything, and what it receives is what its source has. -/
lemma receives?_eq_some {p : Nat} {received : Channel.Received}
    (h : c.receives? n k = some (p, received)) : ∃ crew hook channel,
      c.acts[k]? = some (.task n .hear) ∧ c.crew? n k = some crew ∧ crew.listener? = some hook ∧
        (c.before k).source = some channel ∧ hook.position = p ∧
          (channel.receive hook.position).1 = received := by
  unfold receives? at h
  split at h
  · rename_i m hact
    split at h
    · rename_i hmn
      subst hmn
      obtain ⟨crew, hcrew, hreceives⟩ := Option.bind_eq_some_iff.mp h
      obtain ⟨hook, hlistener, hsource'⟩ := Option.bind_eq_some_iff.mp hreceives
      obtain ⟨channel, hsource, hpair⟩ := Option.bind_eq_some_iff.mp hsource'
      obtain ⟨hposition, hreceived⟩ := Prod.mk.inj (Option.some.inj hpair)
      exact ⟨crew, hook, channel, hact, hcrew, hlistener, hsource, hposition, hreceived⟩
    · cases h
  · cases h

/-- A hook that gets the registry applies the name that it holds. -/
lemma applies?_of_purge (hact : c.acts[k]? = some (.task n .purge))
    (hcrew : c.crew? n k = some crew) : c.applies? n k = crew.hand := by
  simp only [applies?, hact, if_true, hcrew, Option.bind_some]

/-- What is received is heard if it is a message. -/
lemma heard_succ_of_receives? {p : Nat} {received : Channel.Received}
    (h : c.receives? n k = some (p, received)) :
    c.heard n (k + 1) = c.heard n k ++ received.name?.toList := by
  rw [heard_succ, hears?, h, Option.bind_some]

/-- What is received tells how many messages were missed. -/
lemma missed_succ_of_receives? {p : Nat} {received : Channel.Received}
    (h : c.receives? n k = some (p, received)) :
    c.missed n (k + 1) = c.missed n k + received.missed := by
  rw [missed_succ, misses, h, Option.map_some, Option.getD_some]

end

/-- The account of what was announced to the hook of crew `n` since message `first`. -/
structure Tally (c : Course η) (n first k : Nat) (crew : Crew) (position : Nat) : Prop where
  here : ∀ hook, crew.duty.hook? = some hook → hook.position = position
  held : ∀ name, crew.hand = some name →
    crew.duty.hook?.isSome = true ∧ c.authority.config.destroyOnConferenceEnd = true
  within : position ≤ (c.sent k).length
  counted : first + (c.heard n k).length + c.missed n k = position
  ordered : (c.heard n k).Sublist (((c.sent k).take position).drop first)
  grasped : c.heard n k = c.applied n k ++ crew.hand.toList

namespace Tally

variable {c} {n k} {first position : Nat} {crew crew' : Crew}

/-- What was sent up to a number stays so when more is sent. -/
lemma take_sent_succ (hwithin : position ≤ (c.sent k).length) :
    (c.sent (k + 1)).take position = (c.sent k).take position := by
  obtain ⟨more, hmore⟩ := c.sent_grows_succ k
  rw [← hmore, List.take_append_of_le_length hwithin]

/-- An act that tells the hook nothing leaves the account as it is. -/
lemma still (h : c.Tally n first k crew position) (hreceives : c.receives? n k = none)
    (happlies : c.applies? n k = none) (hhand : crew'.hand = crew.hand)
    (hhook : ∀ hook, crew'.duty.hook? = some hook → crew.duty.hook? = some hook)
    (hheld : ∀ name hook, crew.hand = some name → crew.duty.hook? = some hook →
      crew'.duty.hook? = some hook) : c.Tally n first (k + 1) crew' position := by
  have hheard : c.heard n (k + 1) = c.heard n k := by
    rw [heard_succ, hears?_of_receives? hreceives, Option.toList_none, List.append_nil]
  constructor
  case here => exact fun hook h' => h.here hook (hhook hook h')
  case held =>
    intro name hname
    rw [hhand] at hname
    obtain ⟨hsome, heager⟩ := h.held name hname
    obtain ⟨hook, hhook⟩ := Option.isSome_iff_exists.mp hsome
    exact ⟨Option.isSome_iff_exists.mpr ⟨hook, hheld name hook hname hhook⟩, heager⟩
  case within => exact Nat.le_trans h.within (c.sent_grows_succ k).length_le
  case counted =>
    rw [hheard, missed_succ, misses_of_receives? hreceives]
    exact h.counted
  case ordered =>
    rw [hheard, take_sent_succ h.within]
    exact h.ordered
  case grasped =>
    rw [hheard, applied_succ, happlies, Option.toList_none, List.append_nil, hhand]
    exact h.grasped

/-- What a hook gets is counted, and what it hears comes in order. -/
lemma received (h : c.Tally n first k crew position) (hact : c.acts[k]? = some (.task n .hear))
    (hcrew : c.crew? n k = some crew) {hook : Hook} (hlistener : crew.listener? = some hook)
    {channel : Channel} (hsource : (c.before k).source = some channel) :
    c.Tally n first (k + 1)
      ⟨crew.duty.withHook ⟨(channel.receive hook.position).2,
          Hook.phaseAfter (channel.receive hook.position).1⟩,
        Hook.grasp c.authority.config.destroyOnConferenceEnd (channel.receive hook.position).1⟩
      (channel.receive hook.position).2 := by
  obtain ⟨hhook, hhand, -, -⟩ := Crew.listener?_eq_some.mp hlistener
  obtain rfl : hook.position = position := h.here hook hhook
  have hsent : c.sent k = channel.sent := by simp only [sent, Deployment.sent, hsource]
  have hwithin : hook.position ≤ channel.sent.length := hsent ▸ h.within
  have hgrasped : c.heard n k = c.applied n k := by
    simpa only [hhand, Option.toList_none, List.append_nil] using h.grasped
  have hreceives : c.receives? n k =
      some (hook.position, (channel.receive hook.position).1) := by
    rw [receives?_of_hear hact hcrew, Crew.receives?, hlistener, hsource]
    rfl
  have happlies : c.applies? n k =
      if c.authority.config.destroyOnConferenceEnd then none else c.hears? n k := by
    simp only [applies?, hact]
  have hhands := channel.hands_receive hook.position
  generalize (channel.receive hook.position).1 = received,
    (channel.receive hook.position).2 = next at hhands hreceives ⊢
  obtain ⟨hnext, hcounted, hordered⟩ := hhands.account hwithin
  have hheard := heard_succ_of_receives? hreceives
  have hmissed := missed_succ_of_receives? hreceives
  have hbefore := h.counted
  obtain ⟨more, hmore⟩ := c.sent_grows_succ k
  rw [hsent] at hmore
  constructor
  case here =>
    intro hook' hhook'
    rw [Duty.hook?_withHook hhook] at hhook'
    cases hhook'
    rfl
  case held =>
    -- A hook that is to keep the sessions lets go of the name at once.
    intro name hname
    refine ⟨by rw [Duty.hook?_withHook hhook]; rfl, ?_⟩
    by_contra heager
    rw [Hook.grasp, if_neg heager] at hname
    cases hname
  case within =>
    rw [← hmore, List.length_append]
    exact Nat.le_add_right_of_le hnext
  case counted =>
    rw [hheard, hmissed, List.length_append]
    omega
  case ordered =>
    have htaken : (c.sent (k + 1)).take next = channel.sent.take next := by
      rw [← hmore, List.take_append_of_le_length hnext]
    have hbefore' := h.ordered
    rw [hsent] at hbefore'
    rw [hheard, htaken]
    exact (hbefore'.append (List.Sublist.refl _)).trans (hordered first (by omega))
  case grasped =>
    rw [hheard, applied_succ, happlies, hears?, hreceives, Option.bind_some, hgrasped, Hook.grasp]
    cases c.authority.config.destroyOnConferenceEnd with
    | true => simp
    | false => simp

/-- What a hook holds is applied when it gets the registry. -/
lemma purged (h : c.Tally n first k crew position) (hact : c.acts[k]? = some (.task n .purge))
    (hcrew : c.crew? n k = some crew)
    (hhere : ∀ hook, crew'.duty.hook? = some hook → hook.position = position)
    (hhand : crew'.hand = none) : c.Tally n first (k + 1) crew' position := by
  have hother : c.acts[k]? ≠ some (.task n .hear) := by
    rw [hact]
    simp
  have hheard : c.heard n (k + 1) = c.heard n k := by
    rw [heard_succ, hears?_of_receives? (receives?_of_other hother), Option.toList_none,
      List.append_nil]
  constructor
  case here => exact hhere
  case held =>
    intro name hname
    rw [hhand] at hname
    cases hname
  case within => exact Nat.le_trans h.within (c.sent_grows_succ k).length_le
  case counted =>
    rw [hheard, missed_succ, misses_of_receives? (receives?_of_other hother)]
    exact h.counted
  case ordered =>
    rw [hheard, take_sent_succ h.within]
    exact h.ordered
  case grasped =>
    rw [hheard, applied_succ, applies?_of_purge hact hcrew, hhand, h.grasped, Option.toList_none,
      List.append_nil]

/-- **Every way of coming further keeps the account.** -/
theorem next (h : c.Tally n first k crew position) (hcrew : c.crew? n k = some crew)
    (hnext : Crew.Next c.authority (c.before k) n crew c.acts[k]? crew') :
    ∃ position', c.Tally n first (k + 1) crew' position' := by
  have hhook := hnext.hookNext
  generalize hact : c.acts[k]? = act at hhook
  cases hhook with
  | still act crew' unheard unpurged hand kept held =>
    have hreceives : c.receives? n k = none := receives?_of_other (hact ▸ unheard)
    exact ⟨position, h.still hreceives (applies?_of_other (hact ▸ unpurged) hreceives) hand kept
      held⟩
  | deaf nothing =>
    have hreceives : c.receives? n k = none := (receives?_of_hear hact hcrew).trans nothing
    exact ⟨position, h.still hreceives (applies?_of_other (by simp [hact]) hreceives) rfl
      (fun _ hhook => hhook) fun _ _ _ hhook => hhook⟩
  | received hook channel listens source => exact ⟨_, h.received hact hcrew listens source⟩
  | purged hook name hhook hhand =>
    refine ⟨position, h.purged hact hcrew ?_ rfl⟩
    intro hook' hhook'
    rw [Duty.hook?_withHook hhook] at hhook'
    cases hhook'
    rw [Hook.position_purge]
    exact h.here hook hhook
  | empty nothing =>
    refine ⟨position, h.purged hact hcrew h.here ?_⟩
    cases hhand : crew.hand with
    | none => rfl
    | some name =>
      obtain ⟨hook, hhook⟩ := Option.isSome_iff_exists.mp (h.held name hhand).1
      exact absurd hhand (nothing hook name hhook)

end Tally

variable {c} {n k} {j : Nat} {chance : Nat → Nat} {crew : Crew} {hook : Hook}

/-- A crew that is not there yet receives nothing. -/
lemma Enlists.receives?_eq_none (h : c.Enlists n j chance) {i : Nat} (hi : i ≤ j) :
    c.receives? n i = none := by
  simp only [receives?, h.crew?_eq_none hi, Option.bind_none, ite_self]
  split <;> rfl

/-- A crew that is not there yet applies nothing. -/
lemma Enlists.applies?_eq_none (h : c.Enlists n j chance) {i : Nat} (hi : i ≤ j) :
    c.applies? n i = none := by
  simp only [applies?, h.crew?_eq_none hi, Option.bind_none, ite_self,
    hears?_of_receives? (h.receives?_eq_none hi)]
  split <;> rfl

/-- The account of a crew begins with the first message after its start. -/
lemma Enlists.tally (h : c.Enlists n j chance) (hjk : j < k) (hcrew : c.crew? n k = some crew) :
    ∃ position, c.Tally n (c.sent j).length k crew position := by
  have hbefore : ∀ i ∈ List.range (j + 1), i ≤ j := fun i hi =>
    Nat.lt_succ_iff.mp (List.mem_range.mp hi)
  refine h.crew_induction
    (motive := fun k crew => ∃ position, c.Tally n (c.sent j).length k crew position)
    ?_ ?_ hjk hcrew
  · have hheard : c.heard n (j + 1) = [] := List.filterMap_eq_nil_iff.mpr fun i hi =>
      hears?_of_receives? (h.receives?_eq_none (hbefore i hi))
    have happlied : c.applied n (j + 1) = [] := List.filterMap_eq_nil_iff.mpr fun i hi =>
      h.applies?_eq_none (hbefore i hi)
    have hmissed : c.missed n (j + 1) = 0 := by
      refine List.sum_eq_zero ?_
      intro missed hmissed
      obtain ⟨i, hi, rfl⟩ := List.mem_map.mp hmissed
      exact misses_of_receives? (h.receives?_eq_none (hbefore i hi))
    refine ⟨(c.sent j).length, ?_⟩
    constructor
    case here =>
      intro hook hhook
      obtain ⟨channel, hsource, rfl⟩ := Option.map_eq_some_iff.mp hhook
      simp only [Hook.subscribe, sent, Deployment.sent, hsource, Channel.length]
    case held =>
      intro name hname
      cases hname
    case within => exact (c.sent_grows_succ j).length_le
    case counted =>
      rw [hheard, hmissed]
      rfl
    case ordered =>
      rw [hheard]
      exact List.nil_sublist _
    case grasped =>
      rw [hheard, happlied]
      rfl
  · rintro k crew crew' hjk hcrew ⟨position, htally⟩ hnext
    exact htally.next hcrew hnext

/-! ### Hooks that listen -/

/-- How the hook of a crew stands to its source when act `k` comes: it holds its receiver, unless
all has been read from a source that has gone away, or a sink has broken down. -/
inductive Attends (c : Course η) (k : Nat) (hook : Hook) : Prop
  | receiving (receiving : hook.isReceiving = true)
  | ended (ended : hook.phase = .ended) (gone : (c.before k).isClosed = true)
      (read : (c.sent k).length ≤ hook.position)
  | panicked (panicked : hook.phase = .panicked)
      (broken : ∃ i < k, (c.registry i).sinkIsFragile = true)

/-- A hook that attends before an act attends after it. -/
lemma Attends.succ (h : c.Attends k hook) : c.Attends (k + 1) hook := by
  cases h with
  | receiving hreceiving => exact .receiving hreceiving
  | ended hended gone read =>
    obtain ⟨hgone, hsent⟩ := c.sent_succ_of_isClosed k gone
    exact .ended hended hgone (hsent ▸ read)
  | panicked hpanicked broken =>
    obtain ⟨i, hik, hfragile⟩ := broken
    exact .panicked hpanicked ⟨i, by omega, hfragile⟩

/-- **A lag does not end a hook**, and nothing else does but the end of its source, a stop and a
sink that breaks down. -/
theorem Enlists.attends (h : c.Enlists n j chance) (hjk : j < k) (hcrew : c.crew? n k = some crew)
    (hhook : crew.duty.hook? = some hook) : c.Attends k hook := by
  suffices hall : ∀ hook, crew.duty.hook? = some hook → c.Attends k hook from hall hook hhook
  refine h.crew_induction
    (motive := fun k crew => ∀ hook, crew.duty.hook? = some hook → c.Attends k hook)
    ?_ ?_ hjk hcrew
  · intro hook hhook
    obtain ⟨channel, -, rfl⟩ := Option.map_eq_some_iff.mp hhook
    exact .receiving rfl
  · intro k crew crew' _ hcrew ih hnext hook' hhook'
    have hstep := hnext.hookNext
    generalize hact : c.acts[k]? = act at hstep
    cases hstep with
    | still _ _ _ _ _ kept _ => exact (ih hook' (kept hook' hhook')).succ
    | deaf => exact (ih hook' hhook').succ
    | empty => exact (ih hook' hhook').succ
    | received hook channel listens source =>
      obtain ⟨hhook, -, -, hreceiving⟩ := Crew.listener?_eq_some.mp listens
      rw [Duty.hook?_withHook hhook] at hhook'
      obtain rfl := Option.some.inj hhook'
      have hhands := channel.hands_receive hook.position
      generalize (channel.receive hook.position).1 = received,
        (channel.receive hook.position).2 = next at hhands ⊢
      cases hhands with
      | message | lagged | nothing => exact .receiving rfl
      | closed read gone =>
        have hgone : (c.before k).isClosed = true := by
          simp only [Deployment.isClosed, source, gone]
        have hsent : c.sent k = channel.sent := by simp only [sent, Deployment.sent, source]
        exact Attends.succ (.ended rfl hgone (hsent ▸ read))
    | purged hook name hhook hhand =>
      rw [Duty.hook?_withHook hhook] at hhook'
      obtain rfl := Option.some.inj hhook'
      unfold Hook.purge
      split
      · exact (ih hook hhook).succ
      · rename_i s' hbroken
        exact .panicked rfl ⟨k, Nat.lt_succ_self k,
          Authority.sinkIsFragile_of_purgeEnded (congrArg Prod.snd hbroken)⟩

/-! ### What was announced -/

/-- What was announced grows by what is announced at this act. -/
lemma announced_succ (hjk : j ≤ k) :
    c.announced j (k + 1) = c.announced j k ++ (c.announces? k).toList := by
  have hlength : j ≤ (List.range k).length := by rwa [List.length_range]
  rw [announced, List.range_succ, List.drop_append_of_le_length hlength, List.filterMap_append]
  rfl

/-- Only an announcement announces something. -/
lemma announces?_of_other (h : ∀ name elsewhere, c.acts[k]? ≠ some (.announce name elsewhere)) :
    c.announces? k = none := by
  unfold announces?
  split
  · rename_i name elsewhere hact
    exact absurd hact (h name elsewhere)
  · rfl

/-- A hook that is subscribed is a receiver. -/
lemma receivers_pos (hcrew : c.crew? n k = some crew) (hhook : crew.duty.hook? = some hook)
    (hreceiving : hook.isReceiving = true) : 0 < (c.before k).receivers := by
  refine List.countP_pos_iff.mpr ⟨hook, ?_, hreceiving⟩
  exact List.mem_filterMap.mpr ⟨crew, List.mem_of_getElem? hcrew, hhook⟩

/-- While a hook holds its receiver, whatever is announced is sent. -/
lemma sent_succ_of_isReceiving (hcrew : c.crew? n k = some crew)
    (hhook : crew.duty.hook? = some hook) (hreceiving : hook.isReceiving = true) :
    c.sent (k + 1) = c.sent k ++ (c.announces? k).toList := by
  have hreceivers := receivers_pos hcrew hhook hreceiving
  have hleaves := c.leaves k
  simp only [sent]
  generalize hact : c.acts[k]? = act, c.before (k + 1) = d at hleaves ⊢
  have hsilent : (∀ name elsewhere, act ≠ some (.announce name elsewhere)) →
      c.announces? k = none := fun h => announces?_of_other (hact ▸ h)
  cases hleaves with
  | announced name elsewhere isOpen =>
    cases hsource : (c.before k).source with
    | none => simp [announces?, hact, Deployment.sent, hsource]
    | some channel =>
      have hopen : channel.closed = false := by
        simpa only [Deployment.isClosed, hsource] using isOpen
      simp [announces?, hact, Deployment.sent, hsource, Channel.send, hopen]
  | unheard name elsewhere deaf =>
    rcases deaf with hclosed | ⟨-, hnobody⟩
    · cases hsource : (c.before k).source with
      | none => simp [announces?, hact, hsource]
      | some channel =>
        have hgone : channel.closed = true := by
          simpa only [Deployment.isClosed, hsource] using hclosed
        simp [announces?, hact, hsource, hgone]
    · omega
  | closed =>
    rw [hsilent (by simp), Option.toList_none, List.append_nil]
    cases hsource : (c.before k).source with
    | none => simp [Deployment.sent, hsource]
    | some channel => simp [Deployment.sent, hsource, Channel.close]
  | nothing _ silent =>
    rw [hsilent silent, Option.toList_none, List.append_nil]
  | requested | found | started | taken | turned =>
    rw [hsilent (by simp), Option.toList_none, List.append_nil]
    rfl

/-- A start sends nothing. -/
lemma Enlists.sent_succ (h : c.Enlists n j chance) : c.sent (j + 1) = c.sent j := by
  simp only [sent, before, h.act, Deployment.after, Deployment.step, h.stopped, Service.start]
  rfl

/-- **While a hook holds its receiver, the source has sent what was announced** since its start. -/
theorem Enlists.drop_sent (h : c.Enlists n j chance) (hjk : j < k) (hcrew : c.crew? n k = some crew)
    (hhook : crew.duty.hook? = some hook) (hreceiving : hook.isReceiving = true) :
    (c.sent k).drop (c.sent j).length = c.announced (j + 1) k := by
  suffices hall : ∀ hook, crew.duty.hook? = some hook → hook.isReceiving = true →
      (c.sent k).drop (c.sent j).length = c.announced (j + 1) k from hall hook hhook hreceiving
  refine h.crew_induction (motive := fun k crew => ∀ hook, crew.duty.hook? = some hook →
    hook.isReceiving = true → (c.sent k).drop (c.sent j).length = c.announced (j + 1) k) ?_ ?_
    hjk hcrew
  · intro hook hhook _
    have hnone : (List.range (j + 1)).drop (j + 1) = [] :=
      List.drop_eq_nil_of_le (Nat.le_of_eq List.length_range)
    rw [h.sent_succ, List.drop_length, announced, hnone]
    rfl
  · intro k crew crew' hjk hcrew ih hnext hook' hhook' hreceiving'
    have hbefore : ∃ hook, crew.duty.hook? = some hook ∧ hook.isReceiving = true := by
      have hstep := hnext.hookNext
      generalize c.acts[k]? = act at hstep
      cases hstep with
      | still _ _ _ _ _ kept _ => exact ⟨hook', kept hook' hhook', hreceiving'⟩
      | deaf => exact ⟨hook', hhook', hreceiving'⟩
      | empty => exact ⟨hook', hhook', hreceiving'⟩
      | received hook channel listens _ =>
        obtain ⟨hhook, -, -, hreceiving⟩ := Crew.listener?_eq_some.mp listens
        exact ⟨hook, hhook, hreceiving⟩
      | purged hook name hhook hhand =>
        rw [Duty.hook?_withHook hhook] at hhook'
        obtain rfl := Option.some.inj hhook'
        refine ⟨hook, hhook, ?_⟩
        unfold Hook.purge at hreceiving'
        split at hreceiving'
        · exact hreceiving'
        · cases hreceiving'
    obtain ⟨hook, hhook, hreceiving⟩ := hbefore
    have hlength : (c.sent j).length ≤ (c.sent k).length :=
      (c.sent_grows (Nat.le_of_lt hjk)).length_le
    rw [announced_succ hjk, sent_succ_of_isReceiving hcrew hhook hreceiving,
      List.drop_append_of_le_length hlength, ih hook hhook hreceiving]

/-! ### What becomes of the sessions -/

/-- What comes of applying the end of a conference. -/
structure Purged (name : String) (s s' : State η) : Prop where
  /-- No session of another conference is removed. -/
  spares : ∀ x ∈ s.registry.sessions, x.conferenceName ≠ name → x ∈ s'.registry.sessions
  /-- No session is added or changed. -/
  sublist : s'.registry.sessions.Sublist s.registry.sessions
  /-- All sessions of the conference are removed, unless the sink breaks down meanwhile. -/
  removes : s.registry.sinkIsFragile = false →
    s'.registry.sessions = s.registry.sessions.filter (·.conferenceName ≠ name)
  /-- The sink is told of each of them, with the end of the conference as the reason. -/
  tells : s.registry.Records → s'.chronicle = s.chronicle ++
    (s.registry.sessions.filter (·.conferenceName = name)).map (Event.removal · .conferenceEnded)

/-- The end of a conference takes its sessions and no others. -/
lemma purged_purgeEnded (s : State η) (name : String) :
    Purged name s (Authority.purgeEnded s name).1 := by
  have hunchanged := Authority.purgeEnded_unchanged s name
  have hregistry : (Authority.purgeEnded s name).1.registry = (s.registry.purge name).registry :=
    hunchanged.registry
  constructor
  case spares =>
    intro x hx hname
    rw [hregistry]
    exact Registry.mem_removeWhere_of_spared hx (decide_eq_false hname)
  case sublist =>
    rw [hregistry]
    exact Registry.sessions_removeWhere_sublist ..
  case removes =>
    intro hfragile
    rw [hregistry, Registry.purge, Registry.removeWhere, hfragile]
    simp [Registry.restrict]
  case tells =>
    intro hrecords
    have hsame : (Authority.purgeEnded s name).1.chronicle =
        (Authority.afterOperation s (s.registry.purge name)).chronicle :=
      congrArg (List.map _) (Silent.ofUnchanged hunchanged).events
    have hnotices : (s.registry.purge name).notices =
        (s.registry.sessions.filter (·.conferenceName = name)).flatMap
          (s.registry.removalNotices .conferenceEnded) := by
      simp [Registry.purge, Registry.removeWhere, hrecords.not_fragile]
    have htold := hrecords.removals (Log.Record.sessionRemoved · .conferenceEnded) .conferenceEnded
      (s.registry.sessions.filter (·.conferenceName = name))
    rw [hsame, Authority.afterOperation, State.chronicle_note, hnotices]
    exact congrArg (s.chronicle ++ ·) htold

/-- A hook that is to keep the sessions never holds the name of a conference. -/
lemma eager_of_hand {name : String} (hcrew : c.crew? n k = some crew)
    (hhand : crew.hand = some name) : c.authority.config.destroyOnConferenceEnd = true := by
  obtain ⟨j, chance, hjk, henlists⟩ := exists_enlists hcrew
  obtain ⟨position, htally⟩ := henlists.tally hjk hcrew
  exact (htally.held name hhand).2

/-- A hook that is to remove sessions applies what it holds, when it gets the registry. -/
lemma purged_of_applies? (heager : c.authority.config.destroyOnConferenceEnd = true)
    {name : String} (happlies : c.applies? n k = some name) :
    Purged name (c.before k).world.state (c.before (k + 1)).world.state := by
  unfold applies? at happlies
  split at happlies
  · rename_i m hact
    split at happlies
    · rename_i hmn
      subst hmn
      obtain ⟨crew, hcrew, hhand⟩ := Option.bind_eq_some_iff.mp happlies
      obtain ⟨i, chance', hik, henlists⟩ := exists_enlists hcrew
      obtain ⟨position, htally⟩ := henlists.tally hik hcrew
      obtain ⟨hook, hhook⟩ := Option.isSome_iff_exists.mp (htally.held name hhand).1
      rw [before_succ_of_task hact hcrew, Crew.take, Crew.purge, hhook, hhand]
      dsimp only
      rw [Hook.purge_snd]
      exact purged_purgeEnded _ name
    · cases happlies
  · rw [heager] at happlies
    cases happlies

/-- Where the sessions are to be kept, explicit calls and sweeps alone change the registry. -/
lemma registry_succ_of_not_eager (heager : c.authority.config.destroyOnConferenceEnd = false)
    (hrequest : ∀ m, c.acts[k]? ≠ some (.request m))
    (hsweep : ∀ n, c.acts[k]? ≠ some (.task n .sweep)) : c.registry (k + 1) = c.registry k := by
  have hdeed := c.deed k
  simp only [registry, Deployment.registry]
  generalize hact : c.acts[k]? = act, (c.before (k + 1)).world.state = s at hdeed ⊢
  cases hdeed with
  | requested m => exact absurd hact (hrequest m)
  | swept n => exact absurd hact (hsweep n)
  | purged n crew hook name hcrew hhook hhand =>
    have heager' := eager_of_hand (show c.crew? n k = some crew from hcrew) hhand
    rw [heager] at heager'
    cases heager'
  | idle _ unchanged => exact unchanged.registry

/-- A hook that learns that it missed messages says how many. -/
lemma reports_of_lagged {p missed : Nat} (h : c.receives? n k = some (p, .lagged missed)) :
    ∃ s, (c.before (k + 1)).world.state = State.log s (.receiverLagged missed) := by
  obtain ⟨crew, hook, channel, hact, hcrew, hlistener, hsource, rfl, hlagged⟩ :=
    receives?_eq_some h
  refine ⟨(hook.begin (c.before k).world.state).2, ?_⟩
  rw [before_succ_of_task hact hcrew, Crew.take, hsource, Crew.hear_of_listener? _ _ hlistener,
    hlagged]
  rfl

/-! ### The account -/

/-- No end of a conference that is announced to the hook of crew `n`, which act `j` starts, is lost
without a word. -/
structure NothingLost (c : Course η) (n j : Nat) : Prop where
  /-- What the hook applies is part of what was announced, in the same order; nothing is applied
  twice. -/
  ordered : ∀ k > j, (c.applied n k).Sublist ((c.sent k).drop (c.sent j).length)
  /-- Whatever was announced has been applied, is being applied, has been reported as missed, or has
  not been read yet. -/
  accounted : ∀ k > j, ∀ crew hook, c.crew? n k = some crew → crew.duty.hook? = some hook →
    hook.position ≤ (c.sent k).length ∧
      (c.applied n k).length + crew.hand.toList.length + c.missed n k +
        ((c.sent k).length - hook.position) = ((c.sent k).drop (c.sent j).length).length
  /-- While the hook holds its receiver, all announcements are sent. -/
  announced : ∀ k > j, ∀ crew hook, c.crew? n k = some crew → crew.duty.hook? = some hook →
    hook.isReceiving = true → (c.sent k).drop (c.sent j).length = c.announced (j + 1) k
  /-- The hook reports what it missed. -/
  reported : ∀ k p missed, c.receives? n k = some (p, .lagged missed) →
    ∃ s, (c.before (k + 1)).world.state = State.log s (.receiverLagged missed)
  /-- The report is a warning that shows how many they are. -/
  warned : ∀ missed, (Log.Record.receiverLagged missed).level = .warn ∧
    (Log.Record.receiverLagged missed).fields = [("missed", toString missed)]
  /-- It goes on until it is told to stop, whatever it missed. -/
  attends : ∀ k > j, ∀ crew hook, c.crew? n k = some crew → crew.duty.hook? = some hook →
    c.Attends k hook
  /-- Where the end of a conference is to remove sessions, applying it does so, and takes no
  others. -/
  purges : c.authority.config.destroyOnConferenceEnd = true → ∀ k name,
    c.applies? n k = some name → Purged name (c.before k).world.state (c.before (k + 1)).world.state
  /-- Where it is not, announcements and hooks change nothing. -/
  keeps : c.authority.config.destroyOnConferenceEnd = false → ∀ k,
    (∀ m, c.acts[k]? ≠ some (.request m)) → (∀ m, c.acts[k]? ≠ some (.task m .sweep)) →
      c.registry (k + 1) = c.registry k

/-- **No end of a conference is lost silently**, whatever the capacity of the channel, however many
ends are announced at once, and whenever the hook has its turns. -/
theorem nothingLost (h : c.Enlists n j chance) : c.NothingLost n j := by
  constructor
  case ordered =>
    intro k hjk
    obtain ⟨crew, hcrew⟩ := h.exists_crew hjk
    obtain ⟨position, htally⟩ := h.tally hjk hcrew
    have happlied : (c.applied n k).Sublist (c.heard n k) := by
      rw [htally.grasped]
      exact List.sublist_append_left _ _
    exact (happlied.trans htally.ordered).trans ((List.take_sublist _ _).drop _)
  case accounted =>
    intro k hjk crew hook hcrew hhook
    obtain ⟨position, htally⟩ := h.tally hjk hcrew
    obtain rfl := htally.here hook hhook
    have hwithin := htally.within
    have hcounted := htally.counted
    rw [htally.grasped, List.length_append] at hcounted
    refine ⟨hwithin, ?_⟩
    rw [List.length_drop]
    omega
  case announced =>
    intro k hjk crew hook hcrew hhook hreceiving
    exact h.drop_sent hjk hcrew hhook hreceiving
  case reported =>
    intro k p missed hlagged
    exact reports_of_lagged hlagged
  case warned =>
    intro missed
    exact ⟨rfl, rfl⟩
  case attends =>
    intro k hjk crew hook hcrew hhook
    exact h.attends hjk hcrew hhook
  case purges =>
    intro heager k name happlies
    exact purged_of_applies? heager happlies
  case keeps =>
    intro heager k hrequest hsweep
    exact registry_succ_of_not_eager heager hrequest hsweep

/-- Two sessions are opened, three conferences end, and the channel keeps two messages.  While the
hook waits for the registry, a fourth conference ends. -/
def hurried : Course Unit where
  authority := .sample .reverify
  start := .initial 0 (some ⟨"main", false⟩) ()
  source := some (.withCapacity 2)
  acts := [.start fun _ => 0, .request (.arrive 0 (.create "desk" "ann" "room" .empty)),
    .request (.enter 0 true), .request (.arrive 1 (.create "lamp" "bob" "hall" .empty)),
    .request (.enter 1 true), .announce "attic" false, .announce "hall" false,
    .announce "room" false, .task 0 .hear, .task 0 .hear, .announce "cellar" false, .task 0 .purge,
    .task 0 .hear, .task 0 .purge]

/-- Of four names a hook misses one and applies two, and one is still to come. -/
theorem hurried_nothingLost :
    hurried.Enlists 0 0 (fun _ => 0) ∧ hurried.NothingLost 0 0 ∧
      hurried.applied 0 14 = ["hall", "room"] ∧ hurried.missed 0 14 = 1 ∧
      hurried.announced 1 14 = ["attic", "hall", "room", "cellar"] ∧
      (hurried.crew? 0 14).bind (·.duty.hook?) = some ⟨3, .listening⟩ ∧
      (hurried.registry 11).tokens = [.ofNumber 0, .ofNumber 1] ∧
      (hurried.registry 12).tokens = [.ofNumber 0] ∧ (hurried.registry 14).tokens = [] :=
  ⟨⟨rfl, rfl, rfl⟩, nothingLost ⟨rfl, rfl, rfl⟩, by decide, by decide, by decide, by decide,
    by decide, by decide, by decide⟩

end Course

end Admittance
