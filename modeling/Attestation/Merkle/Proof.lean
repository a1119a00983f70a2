import Attestation.Merkle.AuditPath

/-!
# Membership proofs and bundles

A membership proof says that a packet was committed at a height: the packet, its place among the
leaves and its audit path. A bundle holds the proofs of all packets of one height.
-/

namespace Attestation

/-- A proof that a packet belongs to a commitment root. -/
structure MembershipProof where
  /-- Height the proof was taken at. -/
  height : UInt64
  /-- The proven packet. -/
  leaf : Packet
  /-- Place of the packet among the leaves. -/
  leafIndex : UInt64
  /-- Number of leaves. -/
  leafCount : UInt64
  /-- Audit path, deepest sibling first. -/
  siblings : List Digest
deriving DecidableEq

namespace MembershipProof

/-- The root the proof folds to. -/
def root (hash : Bytes → Digest) (p : MembershipProof) : Except Merkle.PathError Digest :=
  Merkle.foldPath hash (Merkle.leafHash hash p.leaf) p.leafIndex.toNat p.leafCount.toNat p.siblings

/-- Whether the proof folds to a given root. -/
def proves (hash : Bytes → Digest) (p : MembershipProof) (expected : Digest) : Bool :=
  match p.root hash with
  | .ok root => root == expected
  | .error _ => false

theorem proves_iff {hash : Bytes → Digest} {p : MembershipProof} {expected : Digest} :
    p.proves hash expected ↔ p.root hash = .ok expected := by
  rw [proves]
  cases p.root hash <;> simp

end MembershipProof

/-- The proofs of all packets of one height. -/
structure ProofBundle where
  /-- The chain. -/
  chainId : String
  /-- The height the packets were read at. -/
  height : UInt64
  /-- The root over all packets. -/
  root : Digest
  /-- One proof per packet, in tree order. -/
  proofs : List MembershipProof
deriving DecidableEq

namespace ProofBundle

/-- The bundle over the leaves of a tree. -/
def ofTree (hash : Bytes → Digest) (chainId : String) (height : UInt64) (t : CommitmentTree) :
    ProofBundle where
  chainId
  height
  root := t.root hash
  proofs := t.leaves.zipIdx.filterMap fun (leaf, index) =>
    (t.auditPath? hash index).map fun siblings =>
      { height
        leaf
        leafIndex := UInt64.ofNat index
        leafCount := UInt64.ofNat t.size
        siblings }

/-- The first proof of a packet under a path. -/
def proofFor? (b : ProofBundle) (path : Digest) : Option MembershipProof :=
  b.proofs.find? (·.leaf.path == path)

end ProofBundle

end Attestation
