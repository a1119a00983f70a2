import Attestation.Registry.Store
import Attestation.Wire.Messages

/-!
# The registry of clients

Calls arrive as bytes and are decoded with the registry's codec. An authority creates, changes and
recovers clients; anyone may update them unless the submitters are restricted. A client is written
back after every change, also after a freeze that is reported as an error.
-/

namespace Attestation

/-- The registry: its store and who may call it. -/
structure Registry where
  /-- Where the clients are kept. -/
  store : Store
  /-- How values are written. -/
  codec : Codec
  /-- Who may do everything. -/
  authority : String
  /-- Who may update clients; everyone, if nobody is listed. -/
  submitters : List String

namespace Registry

/-- A registry over a store, open to every submitter. -/
def new (store : Store) (codec : Codec) (authority : String) : Registry :=
  ⟨store, codec, authority, []⟩

/-- Only the authority has a privilege. -/
def ensureAuthority (r : Registry) (sender : String) (privilege : Privilege) :
    Except ClientError Unit :=
  if sender = r.authority then .ok () else .error (.unauthorized sender privilege)

/-- Decodes what a call brings. -/
def decode {α : Type} (r : Registry) (f : WireFormat α) (bytes : Bytes) : Except ClientError α :=
  (r.codec.decode f bytes).mapError .codec

/-! ### Loading and saving -/

/-- The stored state of a client. -/
def clientState (r : Registry) (clientId : String) : Except ClientError ClientState :=
  match r.store.get? (Store.stateKey clientId) with
  | none => .error (.clientNotFound clientId)
  | some bytes => r.decode ClientState.wire bytes

/-- The stored trusted roots of a client, under the heights that the values tell. -/
def history (r : Registry) (clientId : String) : Except ClientError History := do
  let values := (r.store.keysUnder (Store.historyStem clientId)).filterMap r.store.get?
  let kept ← values.mapM (r.decode ConsensusState.wire)
  return .ofList (kept.map fun c => (c.height, c))

/-- The stored client. -/
def load (r : Registry) (clientId : String) : Except ClientError Client := do
  let state ← r.clientState clientId
  return ⟨state, ← r.history clientId⟩

/-- Writes a client: roots that are no longer kept are deleted, the others and the state are
written. -/
def save (r : Registry) (c : Client) : Registry :=
  let id := c.state.clientId
  let kept := c.history.keys.map (Store.historyKey id)
  let gone := (r.store.keysUnder (Store.historyStem id)).filter fun key => !kept.contains key
  let store := gone.foldl OrderedMap.erase r.store
  let store := c.history.toList.foldl
    (fun store (height, c) =>
      store.insert (Store.historyKey id height) (r.codec.encode ConsensusState.wire c))
    store
  { r with store := store.insert (Store.stateKey id) (r.codec.encode ClientState.wire c.state) }

/-! ### Calls -/

/-- Restricts who may update clients. -/
def setSubmitters (r : Registry) (sender : String) (submitters : List String) :
    Except ClientError Registry := do
  r.ensureAuthority sender .setSubmitters
  return { r with submitters }

/-- Creates a client and returns its id. -/
def createClient (r : Registry) (sender : String) (message : Bytes) :
    Except ClientError (Registry × String) := do
  r.ensureAuthority sender .createClients
  let message ← r.decode CreateClient.wire message
  let id := message.state.clientId
  if (r.store.get? (Store.stateKey id)).isSome then
    throw (.clientAlreadyExists id)
  if message.state.isFrozen then
    throw (.invalidClientState .frozenAtCreation)
  let client ← (Client.create message.state message.initial).mapError .invalidClientState
  return (r.save client, id)

/-- Whether a sender may update clients. -/
def maySubmit (r : Registry) (sender : String) : Bool :=
  r.submitters.isEmpty || r.submitters.contains sender

/-- The claims of an update and the client they are for. -/
def prepareUpdate (r : Registry) (sender clientId : String) (claims : Bytes) :
    Except ClientError (List Claim × Client) := do
  if !r.maySubmit sender then
    throw (.unauthorized sender .updateClients)
  let batch ← r.decode (WireFormat.list Claim.wire) claims
  return (batch, ← r.load clientId)

/-- Submits a batch of claims to a client. -/
def updateClient (recover : Recovery) (r : Registry) (sender clientId : String) (claims : Bytes) :
    Registry × Except ClientError UpdateOutcome :=
  match r.prepareUpdate sender clientId claims with
  | .error e => (r, .error e)
  | .ok (batch, client) =>
    let (client, result) := client.update recover batch
    match result with
    | .ok (.updated ..) | .error (.conflictingQuorum _) => (r.save client, result)
    | _ => (r, result)

/-- Replaces the attestors of a client. -/
def updateAttestors (r : Registry) (sender clientId : String) (message : Bytes) :
    Except ClientError Registry := do
  r.ensureAuthority sender .updateAttestorSets
  let message ← r.decode UpdateAttestors.wire message
  let client ← r.load clientId
  return r.save (← client.updateAttestors message.attestors message.policy)

/-- Recovers a frozen client with a substitute state. -/
def recoverClient (r : Registry) (sender clientId : String) (substitute : Bytes) :
    Except ClientError Registry := do
  r.ensureAuthority sender .recoverClients
  let substitute ← r.decode ClientState.wire substitute
  let client ← r.load clientId
  return r.save (← client.recover substitute)

/-! ### Queries -/

/-- Whether a root is trusted at a height, with or without an encoded proof. -/
def verifyMembership (hash : Bytes → Digest) (r : Registry) (clientId : String) (height : UInt64)
    (root : Digest) (proof : Option Bytes) : Except ClientError Unit := do
  let proof ← proof.mapM (r.decode MembershipProof.wire)
  (← r.load clientId).verifyMembership hash height root proof

/-- Whether a packet is committed at a height, with an encoded proof. -/
def verifyPacket (hash : Bytes → Digest) (r : Registry) (clientId : String) (height : UInt64)
    (packet : Packet) (proof : Bytes) : Except ClientError Unit := do
  let proof ← r.decode MembershipProof.wire proof
  (← r.load clientId).verifyPacket hash height packet proof

/-- The time of the root that a client trusts at a height. -/
def timestampAt (r : Registry) (clientId : String) (height : UInt64) :
    Except ClientError UInt64 := do
  (← r.load clientId).timestampAt height

end Registry

end Attestation
