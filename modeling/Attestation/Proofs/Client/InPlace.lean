import Attestation.Proofs.Client.Lifecycle
import Attestation.Proofs.Except
import Attestation.Proofs.InPlace

/-!
# Operations in place

`Operation.inPlace` tells each operation as a sequence of checks and changes of the client. No check
comes after a change, except that a conflict is reported after the freeze, so what comes out is what
`perform` says, where an operation that fails gives no new client at all (`runOn_inPlace`).
-/

namespace Attestation

namespace Client

open InPlace

/-! ### The operations -/

/-- Submits a batch of claims. -/
def updateInPlace (recover : Recovery) (batch : List Claim) : InPlace Client UpdateOutcome := do
  ofExcept (← get).state.ensureActive
  match aggregate recover (← get).state batch with
  | .ok .alreadyTrusted => return .unchanged
  | .ok (.accepted u) =>
    match (← get).state.advance? u with
    | none => return .unchanged
    | some state =>
      modify fun c => { c with history := c.history.insert u.height u.consensusState }
      modify fun c => { c with state }
      modify fun c => { c with history := c.state.prune c.history }
      return .updated u.height u.root
  | .error (.conflictingQuorum height) =>
    modify (·.freeze height)
    throw (.conflictingQuorum height)
  | .error cause => throw cause

/-- Replaces attestors and policy. -/
def updateAttestorsInPlace (attestors : AttestorSet) (policy : QuorumPolicy) :
    InPlace Client Unit := do
  ofExcept ((policy.validate attestors).mapError (.invalidClientState ∘ .policy))
  modify fun c => { c with state := { c.state with attestors } }
  modify fun c => { c with state := { c.state with policy } }

/-- Takes a substitute over. The history is changed before the state is. -/
def adoptInPlace (substitute : ClientState) : InPlace Client Unit := do
  let height := substitute.latestHeight
  modify fun c => { c with history := c.history.filterKeys (· ≤ height) }
  if height > 0 then
    let known := ((← get).history.get? height).getD ⟨height, substitute.latestRoot, 0⟩
    modify fun c => { c with
      history := c.history.insert height { known with root := substitute.latestRoot } }
  modify fun c => { c with state := substitute }
  modify fun c => { c with history := c.state.prune c.history }

/-- Leaves the frozen state. -/
def recoverInPlace (substitute : ClientState) : InPlace Client Unit := do
  let c ← get
  if ¬ c.state.isFrozen then
    throw (.clientNotFrozen c.state.clientId)
  ofExcept (substitute.validate.mapError .invalidClientState)
  if substitute.isFrozen ∨ substitute.clientId ≠ c.state.clientId ∨
      substitute.chainId ≠ c.state.chainId then
    throw (.invalidClientState .badSubstitute)
  adoptInPlace substitute

/-- An operation as it is done in place. -/
def Operation.inPlace (recover : Recovery) : Operation → InPlace Client (Option UpdateOutcome)
  | .update batch => some <$> updateInPlace recover batch
  | .freeze height => do
    modify (·.freeze height)
    return none
  | .updateAttestors attestors policy => do
    updateAttestorsInPlace attestors policy
    return none
  | .recover substitute => do
    recoverInPlace substitute
    return none

/-! ### What they come to -/

/-- A batch is adopted, confirms what is trusted or fails as `update` says; the freeze that a
conflict causes is done before the conflict is reported. -/
theorem runOn_updateInPlace (recover : Recovery) (c : Client) (batch : List Claim) :
    (updateInPlace recover batch).runOn c = c.update recover batch := by
  rw [updateInPlace, Client.update, runOn_get_bind, runOn_check_bind]
  cases hactive : c.state.ensureActive with
  | error cause => rfl
  | ok active =>
    dsimp only
    rw [runOn_get_bind]
    cases hverdict : aggregate recover c.state batch with
    | ok verdict =>
      cases verdict with
      | alreadyTrusted => rfl
      | accepted u =>
        dsimp only
        rw [runOn_get_bind, Client.apply]
        cases hadvance : c.state.advance? u with
        | none => rfl
        | some state => rfl
    | error cause => cases cause <;> rfl

/-- Attestors are replaced as a whole or not at all. -/
theorem runOn_updateAttestorsInPlace (c : Client) (attestors : AttestorSet)
    (policy : QuorumPolicy) :
    (updateAttestorsInPlace attestors policy).runOn c =
      outcome c ((c.updateAttestors attestors policy).map (·, ())) := by
  rw [updateAttestorsInPlace, updateAttestors, map_eq_bind, bind_assoc]
  exact runOn_check_bind_eq_outcome fun _ => rfl

/-- A substitute is taken over without a check, the history before the state. -/
private theorem runOn_adoptInPlace (c : Client) (substitute : ClientState) :
    (adoptInPlace substitute).runOn c = (c.restart substitute, .ok ()) := by
  rw [adoptInPlace, runOn_modify_bind, restart, recoveredHistory]
  split_ifs with hpos
  · rfl
  · rfl

/-- A client is recovered as a whole or not at all. -/
theorem runOn_recoverInPlace (c : Client) (substitute : ClientState) :
    (recoverInPlace substitute).runOn c =
      outcome c ((c.recover substitute).map (·, ())) := by
  rw [recoverInPlace, Client.recover, runOn_get_bind]
  by_cases hfrozen : c.state.isFrozen
  · simp only [hfrozen, not_true_eq_false, if_false]
    rw [map_eq_bind, bind_assoc]
    refine runOn_check_bind_eq_outcome fun _ => ?_
    split_ifs with hbad
    · rfl
    · exact runOn_adoptInPlace c substitute
  · simp only [hfrozen]
    rfl

/-- **Operations in place.** Done bit by bit, an operation leaves the client and comes to the result
that `perform` says. -/
theorem runOn_inPlace (recover : Recovery) (c : Client) (op : Operation) :
    (op.inPlace recover).runOn c = c.perform recover op := by
  cases op with
  | update batch =>
    rw [Operation.inPlace, map_eq_pure_bind, runOn_bind, runOn_updateInPlace, perform]
    cases (c.update recover batch).2 with
    | ok outcome => rfl
    | error cause => rfl
  | freeze height => rfl
  | updateAttestors attestors policy =>
    rw [Operation.inPlace, runOn_bind, runOn_updateAttestorsInPlace, perform]
    cases c.updateAttestors attestors policy with
    | ok c' => rfl
    | error cause => rfl
  | recover substitute =>
    rw [Operation.inPlace, runOn_bind, runOn_recoverInPlace, perform]
    cases c.recover substitute with
    | ok c' => rfl
    | error cause => rfl

end Client

end Attestation
