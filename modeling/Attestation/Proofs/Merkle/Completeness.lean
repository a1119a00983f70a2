import Attestation.Merkle.Proof
import Attestation.Proofs.Merkle.Sides
import Mathlib.Data.List.Basic

/-!
# Completeness of audit paths

The path of a leaf has one sibling per side (`length_pathOf`) and folds to the root of its tree
(`ascend_pathOf`), whatever the hash function. So the verifier accepts every path that a tree gives
out, and a bundle proves each leaf of its tree at its place.
-/

namespace Attestation

namespace Merkle

variable {hash : Bytes → Digest} {row : List Digest} {i : Nat}

/-- A path has one sibling per side. -/
theorem length_pathOf (hash : Bytes → Digest) (hi : i < row.length) :
    (pathOf hash i row).length = (sides i (row.length - 1)).length := by
  induction row using splitInduction generalizing i with
  | nil => exact absurd hi (Nat.not_lt_zero i)
  | singleton a => simp [pathOf]
  | split row hrow left right =>
    rcases Nat.lt_or_ge i (splitPoint row.length) with hlt | hge
    · have hpart := left (lt_length_take hrow hlt)
      rw [pathOf_of_lt hrow hlt, length_sides_of_lt hrow hlt, List.length_append, hpart]
      rfl
    · have hpart := right (lt_length_drop hge hi)
      rw [pathOf_of_le hrow hge, length_sides_of_le hge hi, List.length_append, hpart]
      rfl

/-- A path folds to the root. -/
theorem ascend_pathOf {leaf : Digest} (hleaf : row[i]? = some leaf) :
    ascend hash leaf (steps i row.length (pathOf hash i row)) = rootOf hash row := by
  induction row using splitInduction generalizing i with
  | nil => exact absurd hleaf (by simp)
  | singleton a =>
    obtain ⟨hi, rfl⟩ := List.getElem?_eq_some_iff.1 hleaf
    simp [steps, rootOf]
  | split row hrow left right =>
    obtain ⟨hi, -⟩ := List.getElem?_eq_some_iff.1 hleaf
    -- one part holds the leaf, and the root of the other is the last sibling
    rw [rootOf_split hrow, nodeHash]
    rcases Nat.lt_or_ge i (splitPoint row.length) with hlt | hge
    · have hpart := left (by rw [List.getElem?_take_of_lt hlt, hleaf])
      have hlength := length_pathOf hash (lt_length_take hrow hlt)
      rw [pathOf_of_lt hrow hlt, steps_of_lt hrow hlt hlength, ascend_append_singleton, hpart,
        joinMessage]
    · have hpart := right (by rw [getElem?_drop_splitPoint hge, hleaf])
      have hlength := length_pathOf hash (lt_length_drop hge hi)
      rw [pathOf_of_le hrow hge, steps_of_le hge hi hlength, ascend_append_singleton, hpart,
        joinMessage]

/-- The verifier accepts the path of each hash of a row under the root of the row. -/
private theorem foldPath_pathOf {leaf : Digest} (hleaf : row[i]? = some leaf) :
    foldPath hash leaf i row.length (pathOf hash i row) = .ok (rootOf hash row) := by
  obtain ⟨hi, -⟩ := List.getElem?_eq_some_iff.1 hleaf
  exact foldPath_eq_ok_iff.2 ⟨hi, length_pathOf hash hi, ascend_pathOf hleaf⟩

end Merkle

open Merkle

/-! ### Trees -/

namespace CommitmentTree

variable {hash : Bytes → Digest} {t : CommitmentTree} {i : Nat}

@[simp]
theorem length_hashes (hash : Bytes → Digest) (t : CommitmentTree) :
    (t.hashes hash).length = t.size :=
  List.length_map _

/-- Every leaf of a tree has an audit path. -/
theorem auditPath?_of_lt (hi : i < t.size) :
    t.auditPath? hash i = some (pathOf hash i (t.hashes hash)) :=
  if_pos hi

/-- The audit path of a leaf folds to the root. -/
theorem foldPath_auditPath {leaf : Packet} {path : List Digest}
    (hleaf : t.leaves[i]? = some leaf) (hpath : t.auditPath? hash i = some path) :
    foldPath hash (leafHash hash leaf) i t.size path = .ok (t.root hash) := by
  obtain ⟨hi, -⟩ := List.getElem?_eq_some_iff.1 hleaf
  obtain rfl := Option.some.inj ((auditPath?_of_lt hi).symm.trans hpath)
  rw [← length_hashes hash]
  exact foldPath_pathOf (by rw [hashes, List.getElem?_map, hleaf, Option.map_some])

end CommitmentTree

/-! ### Bundles -/

namespace ProofBundle

/-- A bundle covers a tree if it holds one proof per leaf, in the order of the leaves, each with its
place, the number of leaves and the height of the bundle, and proving the root of the bundle. -/
structure Covers (hash : Bytes → Digest) (b : ProofBundle) (t : CommitmentTree) : Prop where
  root : b.root = t.root hash
  leaves : b.proofs.map (·.leaf) = t.leaves
  place : ∀ (i : Nat) (p : MembershipProof), b.proofs[i]? = some p →
    p.leafIndex.toNat = i ∧ p.leafCount.toNat = t.size ∧ p.height = b.height
  proves : ∀ p ∈ b.proofs, p.proves hash b.root

variable {hash : Bytes → Digest} {chainId : String} {height : UInt64} {t : CommitmentTree}

/-- A bundle holds one proof for each leaf, in their order. -/
private theorem proofs_ofTree : (ofTree hash chainId height t).proofs =
    t.leaves.zipIdx.map fun (leaf, index) =>
      { height
        leaf
        leafIndex := UInt64.ofNat index
        leafCount := UInt64.ofNat t.size
        siblings := pathOf hash index (t.hashes hash) } := by
  rw [← List.filterMap_eq_map]
  refine List.filterMap_congr fun (leaf, index) hmem => ?_
  have hleaf : t.leaves[index]? = some leaf := List.mem_zipIdx_iff_getElem?.1 hmem
  obtain ⟨hindex, -⟩ := List.getElem?_eq_some_iff.1 hleaf
  dsimp only
  rw [CommitmentTree.auditPath?_of_lt hindex]
  rfl

/-- The proof at a place is that of the leaf there. -/
private theorem eq_of_getElem?_ofTree {i : Nat} {p : MembershipProof}
    (hp : (ofTree hash chainId height t).proofs[i]? = some p) :
    ∃ leaf, t.leaves[i]? = some leaf ∧ p =
      ⟨height, leaf, UInt64.ofNat i, UInt64.ofNat t.size, pathOf hash i (t.hashes hash)⟩ := by
  rw [proofs_ofTree, List.getElem?_map, List.getElem?_zipIdx] at hp
  obtain ⟨⟨leaf, index⟩, hleaf, rfl⟩ := Option.map_eq_some_iff.1 hp
  obtain ⟨leaf', hleaf', heq⟩ := Option.map_eq_some_iff.1 hleaf
  obtain ⟨rfl, rfl⟩ := Prod.mk.inj heq
  exact ⟨leaf', hleaf', by rw [Nat.zero_add]⟩

/-- The proofs are about the leaves, in their order. -/
theorem map_leaf_ofTree (hash : Bytes → Digest) (chainId : String) (height : UInt64)
    (t : CommitmentTree) : (ofTree hash chainId height t).proofs.map (·.leaf) = t.leaves := by
  rw [proofs_ofTree, List.map_map]
  exact List.zipIdx_map_fst 0 t.leaves

/-- The bundle of a tree covers it. -/
theorem covers_ofTree (hsize : t.size < UInt64.size) :
    (ofTree hash chainId height t).Covers hash t where
  root := rfl
  leaves := map_leaf_ofTree hash chainId height t
  place i p hp := by
    obtain ⟨leaf, hleaf, rfl⟩ := eq_of_getElem?_ofTree hp
    obtain ⟨hi, -⟩ := List.getElem?_eq_some_iff.1 hleaf
    exact ⟨UInt64.toNat_ofNat_of_lt' (Nat.lt_trans hi hsize), UInt64.toNat_ofNat_of_lt' hsize, rfl⟩
  proves p hp := by
    obtain ⟨i, hi⟩ := List.mem_iff_getElem?.1 hp
    obtain ⟨leaf, hleaf, rfl⟩ := eq_of_getElem?_ofTree hi
    obtain ⟨hlt, -⟩ := List.getElem?_eq_some_iff.1 hleaf
    rw [MembershipProof.proves_iff, MembershipProof.root, UInt64.toNat_ofNat_of_lt' hsize,
      UInt64.toNat_ofNat_of_lt' (Nat.lt_trans hlt hsize)]
    exact CommitmentTree.foldPath_auditPath hleaf (CommitmentTree.auditPath?_of_lt hlt)

end ProofBundle

/-- **Completeness.** Whatever the hash function, a tree gives out a path exactly for the places of
its leaves, each of them folds from its leaf to the root, and if the number of leaves is a word, as
lengths in memory are, the bundle over the tree covers it. -/
theorem audit_paths_complete (hash : Bytes → Digest) (t : CommitmentTree) :
    (∀ i, (t.auditPath? hash i).isSome ↔ i < t.size) ∧
    (∀ i (hi : i < t.leaves.length), ∃ path, t.auditPath? hash i = some path ∧
      foldPath hash (leafHash hash t.leaves[i]) i t.size path = .ok (t.root hash)) ∧
    ∀ chainId height, t.size < UInt64.size →
      (ProofBundle.ofTree hash chainId height t).chainId = chainId ∧
      (ProofBundle.ofTree hash chainId height t).height = height ∧
      (ProofBundle.ofTree hash chainId height t).Covers hash t := by
  refine ⟨fun i => ?_, fun i hi => ?_, fun chainId height hsize => ?_⟩
  · rw [CommitmentTree.auditPath?]
    split_ifs with hi <;> simp [hi]
  · have hpath := @CommitmentTree.auditPath?_of_lt hash t i hi
    exact ⟨_, hpath, CommitmentTree.foldPath_auditPath (List.getElem?_eq_getElem hi) hpath⟩
  · exact ⟨rfl, rfl, ProofBundle.covers_ofTree hsize⟩

/-! ### Three packets -/

namespace ThreePackets

/-- A packet whose bytes repeat a number. -/
def packet (n : UInt8) : Packet := ⟨.replicate 32 n, .replicate 32 (n + 0x80)⟩

/-- Three packets, out of order and one of them twice. -/
def listing : List Packet := [packet 3, packet 1, packet 3, packet 2]

/-- The tree over the listing. -/
def tree : CommitmentTree := .ofList listing

/-- A hash function that repeats the sum of the bytes. -/
def checksum (message : Bytes) : Digest := .replicate 32 (message.foldl (· + ·) 0)

end ThreePackets

open ThreePackets in
/-- The bundle over three packets covers their tree. -/
theorem audit_paths_complete_three_packets :
    tree.size < UInt64.size ∧ tree.leaves = [packet 1, packet 2, packet 3] ∧
      (ProofBundle.ofTree checksum "chain" 90 tree).Covers checksum tree := by
  have hleaves : tree.leaves = [packet 1, packet 2, packet 3] := by decide +kernel
  have hsize : tree.size < UInt64.size := by
    rw [CommitmentTree.size, hleaves]
    decide
  exact ⟨hsize, hleaves, ((audit_paths_complete checksum tree).2.2 "chain" 90 hsize).2.2⟩

end Attestation
