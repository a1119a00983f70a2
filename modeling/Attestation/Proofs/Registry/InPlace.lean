import Attestation.Proofs.Client.InPlace
import Attestation.Proofs.Registry.Calls

/-!
# Calls in place

A registry is changed in place too: its store is written key by key, and the client that a call is
about is a copy, itself changed bit by bit. `Call.inPlace` tells each call as such a sequence of
checks and changes. All checks, those of the client included, come before the first write, except
that an update that proves a conflict saves the frozen client and reports the conflict afterwards.
So what comes out is what `call` says (`runOn_callInPlace`), and a call that fails leaves the
registry with all its bytes as it was, unless it is such an update (`callInPlace_failed`).
-/

namespace Attestation

namespace Registry

open Store InPlace

variable {r : Registry} {c : Client} {id : String}

/-! ### Writing a client -/

/-- Deletes a key unless a root is kept under it. -/
def deleteStale (c : Client) (key : Bytes) : InPlace Registry Unit := do
  if c.history.keys.all fun height => historyKey c.state.clientId height ≠ key then
    modify fun r => { r with store := r.store.erase key }

/-- Writes a root that is kept. -/
def writeRoot (c : Client) (kept : UInt64 × ConsensusState) : InPlace Registry Unit :=
  modify fun r => { r with
    store := r.store.insert (historyKey c.state.clientId kept.1)
      (r.codec.encode ConsensusState.wire kept.2) }

/-- Writes a client, key by key. -/
def saveInPlace (c : Client) : InPlace Registry Unit := do
  ((← get).store.keysUnder (historyStem c.state.clientId)).forM (deleteStale c)
  c.history.toList.forM (writeRoot c)
  modify fun r => { r with
    store := r.store.insert (stateKey c.state.clientId)
      (r.codec.encode ClientState.wire c.state) }

/-! ### The calls -/

/-- Restricts who may update clients. -/
def setSubmittersInPlace (sender : String) (submitters : List String) : InPlace Registry Unit := do
  ofExcept ((← get).ensureAuthority sender .setSubmitters)
  modify fun r => { r with submitters }

/-- Creates a client and returns its id. -/
def createClientInPlace (sender : String) (message : Bytes) : InPlace Registry String := do
  ofExcept ((← get).ensureAuthority sender .createClients)
  let message ← ofExcept ((← get).decode CreateClient.wire message)
  let id := message.state.clientId
  if ((← get).store.get? (stateKey id)).isSome then
    throw (.clientAlreadyExists id)
  if message.state.isFrozen then
    throw (.invalidClientState .frozenAtCreation)
  let c ← ofExcept ((Client.create message.state message.initial).mapError .invalidClientState)
  saveInPlace c
  return id

/-- Submits a batch of claims to a client. -/
def updateClientInPlace (recover : Recovery) (sender clientId : String) (claims : Bytes) :
    InPlace Registry UpdateOutcome := do
  if !(← get).maySubmit sender then
    throw (.unauthorized sender .updateClients)
  let batch ← ofExcept ((← get).decode (WireFormat.list Claim.wire) claims)
  let c ← ofExcept ((← get).load clientId)
  let (c, result) := (Client.updateInPlace recover batch).runOn c
  match result with
  | .ok (.updated ..) | .error (.conflictingQuorum _) => saveInPlace c
  | _ => pure ()
  ofExcept result

/-- Loads a client, changes the copy and writes it back, unless the change fails. -/
def changeInPlace (clientId : String) (change : InPlace Client Unit) : InPlace Registry Unit := do
  let c ← ofExcept ((← get).load clientId)
  let (c, result) := change.runOn c
  ofExcept result
  saveInPlace c

/-- Replaces the attestors of a client. -/
def updateAttestorsInPlace (sender clientId : String) (message : Bytes) :
    InPlace Registry Unit := do
  ofExcept ((← get).ensureAuthority sender .updateAttestorSets)
  let message ← ofExcept ((← get).decode UpdateAttestors.wire message)
  changeInPlace clientId (Client.updateAttestorsInPlace message.attestors message.policy)

/-- Recovers a frozen client with a substitute state. -/
def recoverClientInPlace (sender clientId : String) (substitute : Bytes) :
    InPlace Registry Unit := do
  ofExcept ((← get).ensureAuthority sender .recoverClients)
  let substitute ← ofExcept ((← get).decode ClientState.wire substitute)
  changeInPlace clientId (Client.recoverInPlace substitute)

/-- A call as it is made in place. -/
def Call.inPlace (recover : Recovery) : Call → InPlace Registry Answer
  | .setSubmitters sender submitters => do
    setSubmittersInPlace sender submitters
    return .done
  | .createClient sender message => .created <$> createClientInPlace sender message
  | .updateClient sender id claims => .updated <$> updateClientInPlace recover sender id claims
  | .updateAttestors sender id message => do
    updateAttestorsInPlace sender id message
    return .done
  | .recoverClient sender id substitute => do
    recoverClientInPlace sender id substitute
    return .done

/-! ### What they come to -/

/-- The keys that are deleted are those that `save` finds no longer kept. -/
private theorem runOn_deleteStale (r : Registry) (key : Bytes) :
    (deleteStale c key).runOn r =
      ({ r with store :=
          if !(c.history.keys.map (historyKey c.state.clientId)).contains key then
            r.store.erase key
          else r.store }, .ok ()) := by
  have hstale : (c.history.keys.all fun height => historyKey c.state.clientId height ≠ key) =
      !(c.history.keys.map (historyKey c.state.clientId)).contains key := by
    rw [Bool.eq_iff_iff]
    simp
  rw [deleteStale, hstale]
  split_ifs
  · rfl
  · rfl

/-- A root is written under its height, with the registry's codec. -/
private theorem runOn_writeRoot (r : Registry) (kept : UInt64 × ConsensusState) :
    (writeRoot c kept).runOn r =
      ({ r with store := r.store.insert (historyKey c.state.clientId kept.1) <|
          r.codec.encode ConsensusState.wire kept.2 }, .ok ()) := rfl

/-- A loop that changes nothing but the store folds what it does to the store. -/
private theorem foldl_store {α : Type} (change : Codec → Store → α → Store) (l : List α)
    (r : Registry) :
    l.foldl (fun r a => { r with store := change r.codec r.store a }) r =
      { r with store := l.foldl (change r.codec) r.store } :=
  List.foldl_hom (fun store => { r with store }) fun _ _ => rfl

/-- Written key by key, a client is saved. -/
theorem runOn_saveInPlace (r : Registry) (c : Client) :
    (saveInPlace c).runOn r = (r.save c, .ok ()) := by
  rw [saveInPlace, runOn_get_bind, runOn_bind, runOn_forM runOn_deleteStale,
    foldl_store fun _ store key =>
      if !(c.history.keys.map (historyKey c.state.clientId)).contains key then store.erase key
      else store, ← List.foldl_filter]
  dsimp only
  rw [runOn_bind, runOn_forM runOn_writeRoot,
    foldl_store fun codec store (kept : UInt64 × ConsensusState) =>
      store.insert (historyKey c.state.clientId kept.1) (codec.encode ConsensusState.wire kept.2)]
  rfl

/-- A copy of a client is changed and written back as a whole or not at all. -/
private theorem runOn_changeInPlace {change : InPlace Client Unit}
    {changed : Client → Except ClientError Client}
    (h : ∀ c, change.runOn c = outcome c ((changed c).map (·, ()))) :
    (changeInPlace id change).runOn r =
      outcome r (r.load id >>= fun c => changed c >>= fun c' => .ok (r.save c', ())) := by
  refine runOn_get_check_bind_eq_outcome fun c => ?_
  rw [h]
  cases changed c with
  | error cause => rfl
  | ok c' => exact runOn_saveInPlace r c'

/-- Submitters are restricted as a whole or not at all. -/
private theorem runOn_setSubmittersInPlace (r : Registry) (sender : String)
    (submitters : List String) :
    (setSubmittersInPlace sender submitters).runOn r =
      outcome r ((r.setSubmitters sender submitters).map (·, ())) := by
  rw [setSubmitters, map_eq_bind, bind_assoc]
  exact runOn_get_check_bind_eq_outcome fun _ => rfl

/-- A client is created as a whole or not at all. -/
private theorem runOn_createClientInPlace (r : Registry) (sender : String) (message : Bytes) :
    (createClientInPlace sender message).runOn r = outcome r (r.createClient sender message) := by
  refine runOn_get_check_bind_eq_outcome fun _ => runOn_get_check_bind_eq_outcome fun message => ?_
  dsimp only
  rw [runOn_get_bind]
  split_ifs with htaken hfrozen hfrozen
  · rfl
  · rfl
  · rfl
  · refine runOn_check_bind_eq_outcome fun c => ?_
    rw [runOn_bind, runOn_saveInPlace]
    rfl

/-- A batch is submitted as `updateClient` says: the copy is written back if it was changed, also
by a conflict, and then the conflict is reported. -/
private theorem runOn_updateClientInPlace (recover : Recovery) (r : Registry)
    (sender clientId : String) (claims : Bytes) :
    (updateClientInPlace recover sender clientId claims).runOn r =
      r.updateClient recover sender clientId claims := by
  rw [updateClientInPlace, updateClient, prepareUpdate, runOn_get_bind]
  split_ifs with hdenied
  · rfl
  · rw [runOn_get_bind, runOn_check_bind]
    cases r.decode (WireFormat.list Claim.wire) claims with
    | error cause => rfl
    | ok batch =>
      dsimp only
      rw [runOn_get_bind, runOn_check_bind]
      cases r.load clientId with
      | error cause => rfl
      | ok c =>
        rw [ok_bind, ok_bind]
        dsimp only [pure, Except.pure]
        rw [Client.runOn_updateInPlace]
        generalize c.update recover batch = out
        obtain ⟨c', result⟩ := out
        -- two of the results write the copy back, no other one does
        cases result with
        | ok outcome =>
          cases outcome with
          | updated height root =>
            dsimp only
            rw [runOn_bind, runOn_saveInPlace]
            rfl
          | unchanged => rfl
        | error cause =>
          cases cause with
          | conflictingQuorum height =>
            dsimp only
            rw [runOn_bind, runOn_saveInPlace]
            rfl
          | _ => rfl

/-- Attestors are replaced as a whole or not at all. -/
private theorem runOn_updateAttestorsInPlace (r : Registry) (sender clientId : String)
    (message : Bytes) :
    (updateAttestorsInPlace sender clientId message).runOn r =
      outcome r ((r.updateAttestors sender clientId message).map (·, ())) := by
  rw [updateAttestors, map_eq_bind]
  simp only [bind_assoc]
  refine runOn_get_check_bind_eq_outcome fun _ => runOn_get_check_bind_eq_outcome fun message => ?_
  exact runOn_changeInPlace fun c => c.runOn_updateAttestorsInPlace _ _

/-- A client is recovered as a whole or not at all. -/
private theorem runOn_recoverClientInPlace (r : Registry) (sender clientId : String)
    (substitute : Bytes) :
    (recoverClientInPlace sender clientId substitute).runOn r =
      outcome r ((r.recoverClient sender clientId substitute).map (·, ())) := by
  rw [recoverClient, map_eq_bind]
  simp only [bind_assoc]
  refine runOn_get_check_bind_eq_outcome fun _ => runOn_get_check_bind_eq_outcome fun _ => ?_
  exact runOn_changeInPlace fun c => c.runOn_recoverInPlace _

/-- **Calls in place.** Made bit by bit, a call leaves the registry and comes to the answer that
`call` says. -/
theorem runOn_callInPlace (recover : Recovery) (r : Registry) (call : Call) :
    (call.inPlace recover).runOn r = r.call recover call := by
  cases call with
  | setSubmitters sender submitters =>
    rw [Call.inPlace, runOn_bind, runOn_setSubmittersInPlace, Registry.call]
    cases r.setSubmitters sender submitters with
    | error cause => rfl
    | ok r' => rfl
  | createClient sender message =>
    rw [Call.inPlace, map_eq_pure_bind, runOn_bind, runOn_createClientInPlace, Registry.call]
    cases r.createClient sender message with
    | error cause => rfl
    | ok created => rfl
  | updateClient sender id claims =>
    rw [Call.inPlace, map_eq_pure_bind, runOn_bind, runOn_updateClientInPlace, Registry.call]
    cases (r.updateClient recover sender id claims).2 with
    | error cause => rfl
    | ok outcome => rfl
  | updateAttestors sender id message =>
    rw [Call.inPlace, runOn_bind, runOn_updateAttestorsInPlace, Registry.call]
    cases r.updateAttestors sender id message with
    | error cause => rfl
    | ok r' => rfl
  | recoverClient sender id substitute =>
    rw [Call.inPlace, runOn_bind, runOn_recoverClientInPlace, Registry.call]
    cases r.recoverClient sender id substitute with
    | error cause => rfl
    | ok r' => rfl

/-- **Failing calls.** Made bit by bit, a call that fails leaves the registry with all its bytes as
it was, unless it is an update that proves a conflict, whose freeze is saved. -/
theorem callInPlace_failed {recover : Recovery} {r : Registry} {call : Call} {cause : ClientError}
    (h : ((call.inPlace recover).runOn r).2 = .error cause) :
    ((call.inPlace recover).runOn r).1 = r ∨
      (∃ sender id claims, call = .updateClient sender id claims) ∧
        ∃ height, cause = .conflictingQuorum height := by
  have hsettle {result : Except ClientError (Registry × Answer)}
      (h : (r.settle result).2 = .error cause) : (r.settle result).1 = r := by
    cases result with
    | error cause' => rfl
    | ok done => contradiction
  rw [runOn_callInPlace] at h ⊢
  cases call with
  | setSubmitters sender submitters => exact .inl (hsettle h)
  | createClient sender message => exact .inl (hsettle h)
  | updateClient sender id claims =>
    have hfailed : (r.updateClient recover sender id claims).2 = .error cause := map_eq_error h
    cases hprepare : r.prepareUpdate sender id claims with
    | error cause' => exact .inl (by rw [Registry.call, updateClient, hprepare])
    | ok prepared =>
      obtain ⟨batch, c⟩ := prepared
      by_cases hchanges : Changes (c.update recover batch).2
      · -- of the two results that change the client, one is a failure
        rw [updateClient_of_changes hprepare hchanges] at hfailed
        obtain ⟨height, root, hupdated⟩ | ⟨height, hconflict⟩ := hchanges
        · rw [hupdated] at hfailed
          contradiction
        · exact .inr ⟨⟨sender, id, claims, rfl⟩, height,
            Except.error.inj (hfailed.symm.trans hconflict)⟩
      · exact .inl (congrArg Prod.fst (updateClient_of_not_changes hprepare hchanges))
  | updateAttestors sender id message => exact .inl (hsettle h)
  | recoverClient sender id substitute => exact .inl (hsettle h)

end Registry

end Attestation
