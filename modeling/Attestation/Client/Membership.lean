import Attestation.Client.Error

/-!
# Membership queries

A root is trusted at a height if it is the one kept there, or if a proof taken at that height folds
to it and it is the latest trusted root. A proof that fails never harms a query that the history
answers.
-/

namespace Attestation

namespace ClientState

/-- Whether a root is the one kept for a height. -/
def checkHistory (history : History) (height : UInt64) (root : Digest) : Except ClientError Unit :=
  match history.get? height with
  | none => .error (.unknownRoot height)
  | some kept => if kept.root = root then .ok () else .error (.rootMismatch height)

/-- What is wrong with a proof for a root at a height, if anything. -/
def proofDefect? (hash : Bytes → Digest) (s : ClientState) (history : History) (height : UInt64)
    (root : Digest) (proof : MembershipProof) : Option ProofDefect :=
  if proof.height ≠ height then some (.otherHeight proof.height height)
  else if ¬ proof.proves hash root then some .otherRoot
  else if root = s.latestRoot ∨ (checkHistory history height root).isOk then none
  else some .untrustedRoot

/-- Whether a root is trusted at a height, with or without a proof. -/
def verifyMembership (hash : Bytes → Digest) (s : ClientState) (history : History)
    (height : UInt64) (root : Digest) (proof : Option MembershipProof) :
    Except ClientError Unit := do
  s.ensureActive
  if height > s.latestHeight then
    throw (.heightNotYetTrusted height s.latestHeight)
  match proof with
  | none => checkHistory history height root
  | some proof =>
    match s.proofDefect? hash history height root proof with
    | none => return ()
    | some defect => (checkHistory history height root).mapError fun _ => .invalidProof defect

/-- Whether a packet is committed under a root trusted at a height. -/
def verifyPacket (hash : Bytes → Digest) (s : ClientState) (history : History) (height : UInt64)
    (packet : Packet) (proof : MembershipProof) : Except ClientError Unit :=
  if proof.leaf ≠ packet then .error (.invalidProof .otherPacket)
  else match proof.root hash with
    | .error cause => .error (.invalidProof (.path cause))
    | .ok root => s.verifyMembership hash history height root (some proof)

end ClientState

end Attestation
