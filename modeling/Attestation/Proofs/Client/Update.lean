import Attestation.Client.Basic
import Attestation.Proofs.Client.Verdict

/-!
# Updates of a client

All that submitting a batch can do to a client, as a relation between the client, the batch and
what comes out (`UpdateStep`). Everything about runs of updates is proved by cases on it. No step
changes the chain, the attestors or the policy (`UpdateStep.sameVoters`), so the claims that are
usable stay the same during a run.
-/

namespace Attestation

namespace Client

/-- The client that trusts the root of an accepted update, without what left the window. -/
def advance (c : Client) (u : AcceptedUpdate) : Client :=
  let state := { c.state with latestHeight := u.height, latestRoot := u.root }
  ⟨state, state.prune (c.history.insert u.height u.consensusState)⟩

/-- What a batch does to a client. -/
inductive UpdateStep (recover : Recovery) (c : Client) (batch : List Claim) :
    Client × Except ClientError UpdateOutcome → Prop
  /-- A frozen client refuses every batch. -/
  | frozen {height : UInt64} (status : c.state.status = .frozen height) :
      UpdateStep recover c batch (c, .error (.clientFrozen height))
  /-- An accepted update is above the trusted height and is adopted. -/
  | updated {u : AcceptedUpdate} (status : c.state.status = .active)
      (verdict : aggregate recover c.state batch = .ok (.accepted u))
      (fresh : c.state.latestHeight < u.height) :
      UpdateStep recover c batch (c.advance u, .ok (.updated u.height u.root))
  /-- A confirmation changes nothing. -/
  | confirmed (status : c.state.status = .active)
      (verdict : aggregate recover c.state batch = .ok .alreadyTrusted) :
      UpdateStep recover c batch (c, .ok .unchanged)
  /-- A conflict freezes the client. -/
  | conflict {height : UInt64} (status : c.state.status = .active)
      (verdict : aggregate recover c.state batch = .error (.conflictingQuorum height)) :
      UpdateStep recover c batch (c.freeze height, .error (.conflictingQuorum height))
  /-- Any other refusal changes nothing. -/
  | refused {cause : ClientError} (status : c.state.status = .active)
      (verdict : aggregate recover c.state batch = .error cause)
      (other : ∀ height, cause ≠ .conflictingQuorum height) :
      UpdateStep recover c batch (c, .error cause)

/-- An update above the latest height is adopted. -/
private theorem apply_of_fresh {c : Client} {u : AcceptedUpdate}
    (h : c.state.latestHeight < u.height) :
    c.apply u = (c.advance u, .updated u.height u.root) := by
  rw [apply, ClientState.advance?, if_pos h]
  rfl

/-- Every update makes one of the steps. -/
theorem updateStep_update (recover : Recovery) (c : Client) (batch : List Claim) :
    UpdateStep recover c batch (c.update recover batch) := by
  rw [update, ClientState.ensureActive]
  cases hstatus : c.state.status with
  | frozen height => exact .frozen hstatus
  | active =>
    dsimp only
    cases hverdict : aggregate recover c.state batch with
    | ok verdict =>
      cases verdict with
      | accepted u =>
        -- an accepted update is above the trusted height, so it is never dropped
        have hfresh := ((judged_aggregate recover c.state batch).accepted_iff.1 hverdict).2.1.1.1
        dsimp only
        rw [apply_of_fresh hfresh]
        exact .updated hstatus hverdict hfresh
      | alreadyTrusted => exact .confirmed hstatus hverdict
    | error cause =>
      cases cause with
      | conflictingQuorum height => exact .conflict hstatus hverdict
      | _ => exact .refused hstatus hverdict (by simp)

/-- What holds of a client, of it when frozen and of it when advanced by a fresh update holds after
any batch. -/
theorem UpdateStep.preserves {recover : Recovery} {c : Client} {batch : List Claim}
    {out : Client × Except ClientError UpdateOutcome} {motive : Client → Prop}
    (h : UpdateStep recover c batch out) (same : motive c)
    (freeze : ∀ height, motive (c.freeze height))
    (advance : ∀ u : AcceptedUpdate, c.state.latestHeight < u.height → motive (c.advance u)) :
    motive out.1 := by
  cases h with
  | frozen status => exact same
  | updated status verdict fresh => exact advance _ fresh
  | confirmed status verdict => exact same
  | conflict status verdict => exact freeze _
  | refused status verdict other => exact same

/-- An active client adopts an accepted update. -/
theorem update_of_accepted {recover : Recovery} {c : Client} {batch : List Claim}
    {u : AcceptedUpdate} (hstatus : c.state.status = .active)
    (hverdict : aggregate recover c.state batch = .ok (.accepted u)) :
    c.update recover batch = (c.advance u, .ok (.updated u.height u.root)) := by
  have hstep := updateStep_update recover c batch
  generalize c.update recover batch = out at hstep ⊢
  cases hstep with
  | frozen status => exact Status.noConfusion (hstatus.symm.trans status)
  | updated status verdict fresh =>
    obtain rfl := Verdict.accepted.inj (Except.ok.inj (hverdict.symm.trans verdict))
    rfl
  | confirmed status verdict => exact nomatch hverdict.symm.trans verdict
  | conflict status verdict => exact nomatch hverdict.symm.trans verdict
  | refused status verdict other => exact nomatch hverdict.symm.trans verdict

/-- An active client is left as it is by a confirmation. -/
theorem update_of_alreadyTrusted {recover : Recovery} {c : Client} {batch : List Claim}
    (hstatus : c.state.status = .active)
    (hverdict : aggregate recover c.state batch = .ok .alreadyTrusted) :
    c.update recover batch = (c, .ok .unchanged) := by
  rw [update, ClientState.ensureActive, hstatus]
  dsimp only
  rw [hverdict]

/-! ### New clients -/

/-- A client is made of a valid state that trusts nothing, or whose latest root comes along. -/
theorem create_eq_ok_iff {c : Client} {s : ClientState} {initial : Option ConsensusState} :
    create s initial = .ok c ↔ s.validate = .ok () ∧
      (initial = none ∧ s.latestHeight = 0 ∧ c = ⟨s, .empty⟩ ∨
        ∃ first, initial = some first ∧ first.height = s.latestHeight ∧
          first.root = s.latestRoot ∧ c = ⟨s, .singleton first.height first⟩) := by
  unfold create
  cases hvalid : s.validate with
  | error cause => exact iff_of_false (fun h => nomatch h) (fun h => nomatch h.1)
  | ok valid =>
    cases initial with
    | none =>
      by_cases hzero : s.latestHeight = 0
      · simp [hzero, bind, Except.bind, pure, Except.pure, eq_comm]
      · simp [hzero, bind, Except.bind, throw, throwThe, MonadExceptOf.throw]
    | some first =>
      by_cases hlatest : first.height = s.latestHeight ∧ first.root = s.latestRoot
      · simp [hlatest, bind, Except.bind, pure, Except.pure, eq_comm]
      · simp [hlatest, bind, Except.bind, throw, throwThe, MonadExceptOf.throw]
        tauto

/-! ### What updates leave alone -/

/-- States under which the same claims are usable and weigh the same. -/
structure SameVoters (s s' : ClientState) : Prop where
  chainId : s'.chainId = s.chainId
  attestors : s'.attestors = s.attestors
  policy : s'.policy = s.policy

theorem SameVoters.trans {s s' s'' : ClientState} (h : SameVoters s s') (h' : SameVoters s' s'') :
    SameVoters s s'' :=
  ⟨h'.chainId.trans h.chainId, h'.attestors.trans h.attestors, h'.policy.trans h.policy⟩

/-- Which claims are usable depends on the voters only. -/
theorem SameVoters.usable_iff {recover : Recovery} {s s' : ClientState} (h : SameVoters s s')
    {c : Claim} : c.Usable recover s' ↔ c.Usable recover s := by
  rw [Claim.Usable, Claim.Usable, h.chainId, h.attestors]

/-- The same attestors support a root. -/
theorem SameVoters.supporters_eq {recover : Recovery} {s s' : ClientState} (h : SameVoters s s')
    {batch : List Claim} {height : UInt64} {root : Digest} :
    supporters recover s' batch height root = supporters recover s batch height root := by
  have hsupporting : supporting recover s' batch height root =
      supporting recover s batch height root := by
    refine List.filter_congr fun c _ => ?_
    rw [decide_eq_decide, h.usable_iff]
  rw [supporters, supporters, hsupporting, h.attestors]

/-- The same roots have a quorum. -/
theorem SameVoters.hasQuorum_iff {recover : Recovery} {s s' : ClientState} (h : SameVoters s s')
    {batch : List Claim} {height : UInt64} {root : Digest} :
    HasQuorum recover s' batch height root ↔ HasQuorum recover s batch height root := by
  rw [HasQuorum, HasQuorum, support, support, h.supporters_eq, h.policy]

private theorem sameVoters_freeze (s : ClientState) (height : UInt64) :
    SameVoters s (s.freeze height) := by
  rw [ClientState.freeze]
  split <;> exact ⟨rfl, rfl, rfl⟩

/-- No batch changes the voters. -/
theorem UpdateStep.sameVoters {recover : Recovery} {c : Client} {batch : List Claim}
    {out : Client × Except ClientError UpdateOutcome} (h : UpdateStep recover c batch out) :
    SameVoters c.state out.1.state := by
  cases h with
  | frozen status => exact ⟨rfl, rfl, rfl⟩
  | updated status verdict fresh => exact ⟨rfl, rfl, rfl⟩
  | confirmed status verdict => exact ⟨rfl, rfl, rfl⟩
  | conflict status verdict => exact sameVoters_freeze _ _
  | refused status verdict other => exact ⟨rfl, rfl, rfl⟩

/-! ### Runs of updates -/

/-- The client after a sequence of batches. -/
def afterUpdates (recover : Recovery) (c : Client) (batches : List (List Claim)) : Client :=
  batches.foldl (fun c batch => (c.update recover batch).1) c

end Client

end Attestation
