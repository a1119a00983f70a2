import Attestation.Client.Basic
import Attestation.Wire.Format

/-!
# The wire forms of messages and states

The formats of everything that is sent or stored, and the two codecs that turn such values into
bytes and back: compact JSON text, and the binary layout, behind which further bytes are ignored.
-/

namespace Attestation

open WireFormat

/-- A digest. -/
abbrev Digest.wire : WireFormat Digest := fixed 32

/-- An address. -/
abbrev Address.wire : WireFormat Address := fixed 20

/-- A packet. -/
def Packet.wire : WireFormat Packet :=
  (record (.cons "path" Digest.wire (.cons "commitment" Digest.wire .nil))).view
    (fun (path, commitment, ()) => ⟨path, commitment⟩)
    fun p => (p.path, p.commitment, ())

/-- A snapshot. -/
def Snapshot.wire : WireFormat Snapshot :=
  (record (.cons "chain_id" text (.cons "height" word (.cons "commitment_root" Digest.wire
    (.cons "collected_at" word .nil))))).view
    (fun (chainId, height, root, collectedAt, ()) => ⟨chainId, height, root, collectedAt⟩)
    fun s => (s.chainId, s.height, s.root, s.collectedAt, ())

/-- A claim; its signature is a list of bytes. -/
def Claim.wire : WireFormat Claim :=
  (record (.cons "snapshot" Snapshot.wire (.cons "attestor_id" text
    (.cons "signature" (list byte) .nil)))).view
    (fun (snapshot, attestorId, signature, ()) => ⟨snapshot, attestorId, signature⟩)
    fun c => (c.snapshot, c.attestorId, c.signature, ())

/-- A membership proof. -/
def MembershipProof.wire : WireFormat MembershipProof :=
  (record (.cons "height" word (.cons "leaf" Packet.wire (.cons "leaf_index" word
    (.cons "leaf_count" word (.cons "siblings" (list Digest.wire) .nil)))))).view
    (fun (height, leaf, leafIndex, leafCount, siblings, ()) =>
      ⟨height, leaf, leafIndex, leafCount, siblings⟩)
    fun p => (p.height, p.leaf, p.leafIndex, p.leafCount, p.siblings, ())

/-- A proof bundle. -/
def ProofBundle.wire : WireFormat ProofBundle :=
  (record (.cons "chain_id" text (.cons "height" word (.cons "commitment_root" Digest.wire
    (.cons "proofs" (list MembershipProof.wire) .nil))))).view
    (fun (chainId, height, root, proofs, ()) => ⟨chainId, height, root, proofs⟩)
    fun b => (b.chainId, b.height, b.root, b.proofs, ())

/-- A registered attestor. -/
def Attestor.wire : WireFormat Attestor :=
  (record (.cons "id" text (.cons "address" Address.wire (.cons "weight" word .nil)))).view
    (fun (id, address, weight, ()) => ⟨id, address, weight⟩)
    fun a => (a.id, a.address, a.weight, ())

/-- An attestor set: the list of its attestors, which has to form a set. -/
def AttestorSet.wire : WireFormat AttestorSet :=
  (list Attestor.wire).refine (fun members => (AttestorSet.ofList members).mapError .attestors)
    (·.members)

/-- A quorum policy. -/
def QuorumPolicy.wire : WireFormat QuorumPolicy :=
  (choice (.fields "count" (.cons "threshold" word .nil))
    (.fields "weighted" (.cons "threshold" word .nil))).view
    (fun
      | .inl (threshold, ()) => .count threshold
      | .inr (threshold, ()) => .weighted threshold)
    fun
      | .count threshold => .inl (threshold, ())
      | .weighted threshold => .inr (threshold, ())

/-- A status. -/
def Status.wire : WireFormat Status :=
  (choice (.unit "active") (.fields "frozen" (.cons "height" word .nil))).view
    (fun
      | .inl () => .active
      | .inr (height, ()) => .frozen height)
    fun
      | .active => .inl ()
      | .frozen height => .inr (height, ())

/-- A client state. -/
def ClientState.wire : WireFormat ClientState :=
  (record (.cons "client_id" text (.cons "chain_id" text (.cons "attestor_set" AttestorSet.wire
    (.cons "quorum_policy" QuorumPolicy.wire (.cons "latest_trusted_height" word
    (.cons "latest_trusted_root" Digest.wire (.cons "status" Status.wire
    (.cons "history_window" word .nil))))))))).view
    (fun (clientId, chainId, attestors, policy, latestHeight, latestRoot, status, window, ()) =>
      ⟨clientId, chainId, attestors, policy, latestHeight, latestRoot, status, window⟩)
    fun s => (s.clientId, s.chainId, s.attestors, s.policy, s.latestHeight, s.latestRoot, s.status,
      s.historyWindow, ())

/-- A consensus state. -/
def ConsensusState.wire : WireFormat ConsensusState :=
  (record (.cons "height" word (.cons "commitment_root" Digest.wire
    (.cons "timestamp" word .nil)))).view
    (fun (height, root, timestamp, ()) => ⟨height, root, timestamp⟩)
    fun c => (c.height, c.root, c.timestamp, ())

/-- A client. -/
def Client.wire : WireFormat Client :=
  (record (.cons "client_state" ClientState.wire
    (.cons "consensus_states" (map ConsensusState.wire) .nil))).view
    (fun (state, history, ()) => ⟨state, history⟩)
    fun c => (c.state, c.history, ())

/-- What creates a client. -/
structure CreateClient where
  /-- The initial state. -/
  state : ClientState
  /-- The root trusted at the initial height, if any. -/
  initial : Option ConsensusState
deriving DecidableEq

/-- A message that creates a client. -/
def CreateClient.wire : WireFormat CreateClient :=
  (record (.cons "client_state" ClientState.wire
    (.cons "consensus_state" (optional ConsensusState.wire) .nil))).view
    (fun (state, initial, ()) => ⟨state, initial⟩)
    fun m => (m.state, m.initial, ())

/-- What replaces the attestors of a client. -/
structure UpdateAttestors where
  /-- The new attestors. -/
  attestors : AttestorSet
  /-- The policy for them. -/
  policy : QuorumPolicy
deriving DecidableEq

/-- A message that replaces the attestors of a client. -/
def UpdateAttestors.wire : WireFormat UpdateAttestors :=
  (record (.cons "attestor_set" AttestorSet.wire
    (.cons "quorum_policy" QuorumPolicy.wire .nil))).view
    (fun (attestors, policy, ()) => ⟨attestors, policy⟩)
    fun m => (m.attestors, m.policy, ())

/-! ### Codecs -/

/-- The ways in which values become bytes. -/
inductive Codec where
  | json
  | binary
deriving DecidableEq

namespace Codec

variable {α : Type}

/-- The bytes of a value. -/
def encode (c : Codec) (f : WireFormat α) (a : α) : Bytes :=
  match c with
  | json => (f.toJson a).write
  | binary => f.toBytes a

/-- The value of bytes. Behind a JSON value only blanks may follow. -/
def decode (c : Codec) (f : WireFormat α) (bytes : Bytes) : Except DecodeError α :=
  match c with
  | json => do
    let (a, rest) ← f.ofJson bytes
    if Json.skipBlanks rest = [] then return a else throw .malformed
  | binary => (f.ofBytes bytes).map (·.1)

end Codec

end Attestation
