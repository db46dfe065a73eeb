import Admittance.Proofs.Guarded

/-!
# Who is let in

A join that is let in names an identity and a session.  The identity is the one that a verifier
answered: in this very join, or in the join that opened the session, if the policy trusts the
session's token.  `Run.authentic` says so of every run of a registry that only its authority
changes.

The invariant is that every live session was opened by a verified join of its own machine
(`Run.Guarded.vouched`).  A trusted join does not look at machine and identity again when it
commits; it need not, because a token is bound to one machine and one identity in the whole run.
-/

namespace Admittance.Run

variable {η : Type} {ρ : Run η}

/-- The verifier was asked in this join before move `k`, and answered the identity. -/
def Approved (ρ : Run η) (k n : Nat) (q : JoinRequest) (requester : PeerAddress)
    (identity : String) : Prop :=
  ∃ j < k, ∃ presented v,
    ρ.Consulted j n ⟨q, requester, presented⟩ (.ok v) ∧ v.identity = identity

/-- Move `j` is a join of the machine that the verifier approved as the identity, and that join is
the one that the token is issued to. -/
def IssuedTo (ρ : Run η) (j : Nat) (machineId : String) (response : JoinResponse) : Prop :=
  ∃ n q requester, ρ.Joins j n q requester response ∧ q.machineId = machineId ∧
    ρ.Approved j n q requester response.identity ∧
    ¬ (ρ.registry j).IsLive response.sessionToken ∧
    response.sessionToken = ρ.nextToken j

/-- A session was opened in the first `k` moves by a verified join of its machine. -/
structure Vouched (ρ : Run η) (k : Nat) (b : Binding) : Prop where
  issued : ∃ j < k, ρ.IssuedTo j b.machineId ⟨b.identity, b.token⟩
  machineId : b.machineId.isEmpty = false
  identity : b.identity.isEmpty = false

/-! ## Live sessions -/

/-- A join that opens a session is answered with it. -/
lemma Guarded.issuedTo (hguarded : ρ.Guarded) {k : Nat} {b : Binding}
    (hopens : ρ.Opens k b) (htoken : b.token = ρ.nextToken k)
    (hbindings : (ρ.registry (k + 1)).bindings = (ρ.registry k).bindings ++ [b]) :
    ρ.IssuedTo k b.machineId ⟨b.identity, b.token⟩ := by
  obtain ⟨n, q, requester, v, i, presented, hcommits, hgranted, hm, hi, -, -, hunheld⟩ :=
    hguarded.opens hopens
  obtain ⟨⟨j, -, hjk, hconsulted⟩, -, -⟩ := hgranted.verified
  have happroved : ρ.Approved k n q requester b.identity :=
    ⟨j, hjk, presented, v, hconsulted, hi.symm⟩
  rcases hcommits.outcome with ⟨t, hg, -⟩ | ⟨b', hb', hjoins, hprovided⟩
  · exact absurd hg (by simp)
  · -- The session that the join is answered with is the one that it opened.
    have hb'' : b' ∈ (ρ.registry k).bindings ∨ b' = b := by
      simpa [hbindings] using hb'
    cases hprovided with
    | found _ _ mem machine identity =>
      exact absurd ⟨machine.trans hm.symm, identity.trans hi.symm⟩ (hunheld b' mem)
    | opened _ _ none machine identity fresh =>
      rcases hb'' with hold | rfl
      · exact absurd (Registry.isLive_of_mem hold) fresh
      · exact ⟨n, q, requester, hjoins, hm.symm, happroved, fresh, htoken⟩

/-- **Every live session was opened by a verified join of its own machine.** -/
theorem Guarded.vouched (hguarded : ρ.Guarded) (k : Nat) {b : Binding}
    (hb : b ∈ (ρ.registry k).bindings) : ρ.Vouched k b := by
  induction k generalizing b with
  | zero =>
    have hnone : (ρ.registry 0).bindings = [] := congrArg (List.map Session.binding) hguarded.empty
    rw [hnone] at hb
    exact absurd hb (by simp)
  | succ k ih =>
    rcases Run.mem_bindings_succ hb with hold | ⟨hopens, htoken, hbindings, -⟩
    · obtain ⟨⟨j, hjk, hissued⟩, hmachine, hidentity⟩ := ih hold
      exact ⟨⟨j, Nat.lt_succ_of_lt hjk, hissued⟩, hmachine, hidentity⟩
    · obtain ⟨-, -, -, -, -, -, -, -, -, -, hmachine, hidentity, -⟩ := hguarded.opens hopens
      have hissued := hguarded.issuedTo hopens htoken hbindings
      exact ⟨⟨k, Nat.lt_succ_self k, hissued⟩, hmachine, hidentity⟩

/-! ## Successful joins -/

/-- What stands behind a successful join. -/
structure Authentic (ρ : Run η) (k n : Nat) (q : JoinRequest) (requester : PeerAddress)
    (response : JoinResponse) : Prop where
  identity : response.identity.isEmpty = false
  machineId : q.machineId.isEmpty = false
  /-- The token is bound to the machine of the request and to the identity of the response. -/
  bound : ∃ x, (ρ.registry (k + 1)).get? response.sessionToken = some x ∧
    x.machineId = q.machineId ∧ x.identity = response.identity
  /-- The identity is the verifier's answer in this join, or the join was trusted for its token,
  which was issued to a join of the same machine that the verifier approved as the same identity.
  -/
  approved : ρ.Approved k n q requester response.identity ∨
    ρ.authority.verifier.policy = .trustToken ∧ q.presentedToken = some response.sessionToken ∧
      ∃ j < k, ρ.IssuedTo j q.machineId response
  /-- The token says the same in all responses of the run. -/
  unambiguous : ∀ k' n' q' requester' response', ρ.Joins k' n' q' requester' response' →
    response'.sessionToken = response.sessionToken →
      response'.identity = response.identity ∧ q'.machineId = q.machineId

/-- The session that a join is answered with belongs to the machine of its request. -/
lemma TokensDistinct.exists_binding (h : ρ.TokensDistinct) {k n : Nat} {q : JoinRequest}
    {requester : PeerAddress} {response : JoinResponse}
    (hjoins : ρ.Joins k n q requester response) :
    ∃ b ∈ (ρ.registry (k + 1)).bindings, response = ⟨b.identity, b.token⟩ ∧
      b.machineId = q.machineId := by
  obtain ⟨i, presented, g, -, hgranted, b, hb, rfl, hprovided⟩ := hjoins.provided
  refine ⟨b, hb, rfl, ?_⟩
  cases hprovided with
  | kept _ mem =>
    obtain ⟨-, x, rfl, hxb⟩ := hgranted.trusted
    obtain ⟨hx, -, hmachine⟩ := hgranted.prechecked.presents
    have hbinding : x.binding = b :=
      h.binding_eq (Nat.le_of_lt hgranted.before) (Registry.binding_mem hx) mem hxb
    exact hbinding ▸ hmachine
  | found _ _ _ machine _ => exact machine
  | opened _ _ _ machine _ _ => exact machine

/-- **Whoever is let in has been verified.** -/
theorem authentic (hguarded : ρ.Guarded) (h : ρ.TokensDistinct) {k n : Nat} {q : JoinRequest}
    {requester : PeerAddress} {response : JoinResponse}
    (hjoins : ρ.Joins k n q requester response) : ρ.Authentic k n q requester response := by
  obtain ⟨b, hb, hresponse, hmachine⟩ := h.exists_binding hjoins
  obtain ⟨-, hnamed, hidentified⟩ := hguarded.vouched (k + 1) hb
  have hi : response.identity = b.identity := congrArg JoinResponse.identity hresponse
  have ht : response.sessionToken = b.token := congrArg JoinResponse.sessionToken hresponse
  refine ⟨hi ▸ hidentified, hmachine ▸ hnamed, ?_, ?_, ?_⟩
  · obtain ⟨x, hx⟩ := Registry.isLive_iff_get?.mp (Registry.isLive_of_mem hb)
    obtain ⟨hmem, htoken⟩ := Registry.get?_eq_some hx
    have hxb : x.binding = b := Registry.binding_eq (Registry.binding_mem hmem) hb htoken
    refine ⟨x, ht ▸ hx, ?_, ?_⟩
    · exact (congrArg Binding.machineId hxb).trans hmachine
    · exact (congrArg Binding.identity hxb).trans hi.symm
  · obtain ⟨i, presented, g, -, hgranted, b', hb', hresponse', hprovided⟩ :=
      hjoins.provided
    obtain rfl : b' = b := Registry.binding_eq hb' hb
      ((congrArg JoinResponse.sessionToken hresponse').symm.trans ht)
    cases hprovided with
    | kept _ mem =>
      obtain ⟨hpolicy, x, rfl, hx⟩ := hgranted.trusted
      obtain ⟨-, hq, -⟩ := hgranted.prechecked.presents
      obtain ⟨hissued, -, -⟩ := hguarded.vouched k mem
      rw [← hresponse, hmachine] at hissued
      exact .inr ⟨hpolicy, by rw [hq, hx, ht], hissued⟩
    | found v _ _ _ identity | opened v _ _ _ identity _ =>
      obtain ⟨⟨j, -, hjk, hconsulted⟩, -, -⟩ := hgranted.verified
      exact .inl ⟨j, hjk, presented, v, hconsulted, identity.symm.trans hi.symm⟩
  · intro k' n' q' requester' response' hjoins' htoken'
    obtain ⟨b', hb', rfl, hmachine'⟩ := h.exists_binding hjoins'
    have htokens : b'.token = b.token := htoken'.trans ht
    have hsame : b' = b := by
      rcases Nat.le_total (k' + 1) (k + 1) with hle | hle
      · exact h.binding_eq hle hb' hb htokens
      · exact (h.binding_eq hle hb hb' htokens.symm).symm
    subst hsame
    exact ⟨hi.symm, hmachine'.symm.trans hmachine⟩

/-- A device is verified, and joins again with its token. -/
def rejoined : Run Unit where
  authority := .sample .trustToken
  start := .initial 0 none ()
  moves := [.arrive 0 (.join (.plain "desk" "room") ⟨"peer"⟩), .enter 0 true,
    .answer 0 (.ok (.plain "ann")), .enter 0 true,
    .arrive 1 (.join ((JoinRequest.plain "desk" "room").withToken (.ofNumber 0)) ⟨"peer"⟩),
    .enter 1 true, .enter 1 true]

/-- The second answer goes back to what the verifier said at the first one. -/
theorem rejoined_authentic :
    rejoined.Guarded ∧ rejoined.TokensDistinct ∧
      rejoined.Joins 6 1 ((JoinRequest.plain "desk" "room").withToken (.ofNumber 0)) ⟨"peer"⟩
        ⟨"ann", .ofNumber 0⟩ ∧
      rejoined.Authentic 6 1 ((JoinRequest.plain "desk" "room").withToken (.ofNumber 0)) ⟨"peer"⟩
        ⟨"ann", .ofNumber 0⟩ := by
  have hguarded : rejoined.Guarded := ⟨by decide, by decide⟩
  have hdistinct : rejoined.TokensDistinct := by decide
  have hjoins : rejoined.Joins 6 1 ((JoinRequest.plain "desk" "room").withToken (.ofNumber 0))
      ⟨"peer"⟩ ⟨"ann", .ofNumber 0⟩ := ⟨⟨by rfl, by rfl⟩, by rfl⟩
  exact ⟨hguarded, hdistinct, hjoins, authentic hguarded hdistinct hjoins⟩

end Admittance.Run
