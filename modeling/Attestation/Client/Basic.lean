import Attestation.Client.Aggregate
import Attestation.Client.Membership

/-!
# Clients

A client is its state with the history of trusted roots. Batches of claims move it forward, two
quorums at one height freeze it, and a substitute state recovers it.
-/

namespace Attestation

/-- A client state and its history. -/
structure Client where
  /-- What the client trusts. -/
  state : ClientState
  /-- The trusted roots that are kept. -/
  history : History
deriving DecidableEq

/-- What a batch of claims did. -/
inductive UpdateOutcome where
  /-- A new height is trusted. -/
  | updated (height : UInt64) (root : Digest)
  /-- The claims confirm what is trusted already. -/
  | unchanged
deriving DecidableEq

/-- The consensus state of an accepted update. -/
def AcceptedUpdate.consensusState (u : AcceptedUpdate) : ConsensusState :=
  ⟨u.height, u.root, u.timestamp⟩

/-- The state after an accepted update, if the update is above the trusted height. -/
def ClientState.advance? (s : ClientState) (u : AcceptedUpdate) : Option ClientState :=
  if u.height > s.latestHeight then some { s with latestHeight := u.height, latestRoot := u.root }
  else none

namespace Client

/-- A client with at most one trusted root, which is the latest one of the state. -/
def create (state : ClientState) (initial : Option ConsensusState) :
    Except ClientStateError Client := do
  state.validate
  match initial with
  | some c =>
    if c.height = state.latestHeight ∧ c.root = state.latestRoot then
      return ⟨state, .singleton c.height c⟩
    else throw .initialMismatch
  | none => if state.latestHeight = 0 then return ⟨state, .empty⟩ else throw .initialMissing

/-- The consensus state kept for a height. -/
def consensusState? (c : Client) (height : UInt64) : Option ConsensusState :=
  c.history.get? height

/-- The time of the root trusted at a height. -/
def timestampAt (c : Client) (height : UInt64) : Except ClientError UInt64 :=
  match c.consensusState? height with
  | some kept => .ok kept.timestamp
  | none => .error (.unknownRoot height)

/-- Freezes the client; an earlier freeze keeps its height. -/
def freeze (c : Client) (height : UInt64) : Client := { c with state := c.state.freeze height }

/-- Adopts an accepted update and drops what left the window. -/
def apply (c : Client) (u : AcceptedUpdate) : Client × UpdateOutcome :=
  match c.state.advance? u with
  | none => (c, .unchanged)
  | some state =>
    (⟨state, state.prune (c.history.insert u.height u.consensusState)⟩, .updated u.height u.root)

/-- Submits a batch of claims. A conflict freezes the client although it is an error. -/
def update (recover : Recovery) (c : Client) (batch : List Claim) :
    Client × Except ClientError UpdateOutcome :=
  match c.state.ensureActive with
  | .error e => (c, .error e)
  | .ok () =>
    match aggregate recover c.state batch with
    | .ok (.accepted u) => ((c.apply u).1, .ok (c.apply u).2)
    | .ok .alreadyTrusted => (c, .ok .unchanged)
    | .error (.conflictingQuorum height) => (c.freeze height, .error (.conflictingQuorum height))
    | .error e => (c, .error e)

/-- Whether a batch of claims proves a conflict. -/
def checkForMisbehaviour (recover : Recovery) (c : Client) (batch : List Claim) : Bool :=
  (conflictingQuorum? recover c.state batch).isSome

/-- Whether a root is trusted at a height. -/
def verifyMembership (hash : Bytes → Digest) (c : Client) (height : UInt64) (root : Digest)
    (proof : Option MembershipProof) : Except ClientError Unit :=
  c.state.verifyMembership hash c.history height root proof

/-- Whether a packet is committed under a root trusted at a height. -/
def verifyPacket (hash : Bytes → Digest) (c : Client) (height : UInt64) (packet : Packet)
    (proof : MembershipProof) : Except ClientError Unit :=
  c.state.verifyPacket hash c.history height packet proof

/-- Replaces attestors and policy, if they fit each other. -/
def updateAttestors (c : Client) (attestors : AttestorSet) (policy : QuorumPolicy) :
    Except ClientError Client := do
  (policy.validate attestors).mapError (.invalidClientState ∘ .policy)
  return { c with state := { c.state with attestors, policy } }

/-- The history after a recovery: nothing above the new latest height, and the new latest root in
its place. Its time is kept if the height was known and is zero otherwise. -/
def recoveredHistory (history : History) (s : ClientState) : History :=
  let kept := history.filterKeys (· ≤ s.latestHeight)
  if s.latestHeight > 0 then
    let known := (kept.get? s.latestHeight).getD ⟨s.latestHeight, s.latestRoot, 0⟩
    kept.insert s.latestHeight { known with root := s.latestRoot }
  else kept

/-- Leaves the frozen state by adopting a substitute for the same client and chain. -/
def recover (c : Client) (substitute : ClientState) : Except ClientError Client := do
  if ¬ c.state.isFrozen then
    throw (.clientNotFrozen c.state.clientId)
  substitute.validate.mapError .invalidClientState
  if substitute.isFrozen ∨ substitute.clientId ≠ c.state.clientId ∨
      substitute.chainId ≠ c.state.chainId then
    throw (.invalidClientState .badSubstitute)
  return ⟨substitute, substitute.prune (recoveredHistory c.history substitute)⟩

end Client

end Attestation
