import Attestation.Proofs.Merkle.Completeness
import Attestation.Proofs.Merkle.Messages
import Mathlib.Data.List.Basic

/-!
# Soundness of membership proofs

If no two of the messages hashed for a root and for a proof collide, then a proof that folds to the
root proves a leaf of the tree (`mem_of_ascend_eq`), and one that knows the number of leaves proves
the leaf at its place by the path that the tree gives out (`eq_pathOf_of_ascend_eq`). Both descend
from the root: there the last sibling and the node it joins are the roots of the two parts of the
row, and the other siblings fold to one of them.
-/

namespace Attestation

namespace Merkle

variable {hash : Bytes → Digest} {M : Set Bytes} {row : List Digest}

/-! ### The leaf -/

/-- Siblings that are folded into a leaf and lead to the root of a row of leaves lead up from one
of these leaves. -/
theorem mem_of_ascend_eq (hinj : Set.InjOn hash M) {leaf : Packet}
    {steps : List (Side × Digest)} (hleaf : leafMessage leaf ∈ M)
    (hrow : ∀ d ∈ row, ∃ p, leafMessage p ∈ M ∧ leafHash hash p = d)
    (hroot : ∀ m ∈ rootMessages hash row, m ∈ M)
    (hsteps : ∀ m ∈ stepMessages hash (leafHash hash leaf) steps, m ∈ M)
    (h : ascend hash (leafHash hash leaf) steps = rootOf hash row) :
    leafHash hash leaf ∈ row := by
  induction row using splitInduction generalizing steps with
  | nil =>
    have hempty : [] ∈ M := hroot [] (by simp [rootMessages])
    rw [rootOf] at h
    rcases List.eq_nil_or_concat' steps with rfl | ⟨init, step, rfl⟩
    · exact absurd (hinj hleaf hempty h) leafMessage_ne_nil
    · rw [ascend_append_singleton] at h
      rw [forall_stepMessages_append_singleton] at hsteps
      exact absurd (hinj hsteps.2 hempty h) joinMessage_ne_nil
  | singleton a =>
    obtain ⟨p, hp, rfl⟩ := hrow a List.mem_cons_self
    rw [rootOf] at h
    rcases List.eq_nil_or_concat' steps with rfl | ⟨init, step, rfl⟩
    · exact List.mem_singleton.2 h
    · rw [ascend_append_singleton] at h
      rw [forall_stepMessages_append_singleton] at hsteps
      exact absurd (hinj hp hsteps.2 h.symm) leafMessage_ne_joinMessage
  | split row htwo left right =>
    rw [forall_rootMessages_split htwo] at hroot
    obtain ⟨hleft, hright, hnode⟩ := hroot
    rw [rootOf_split htwo] at h
    rcases List.eq_nil_or_concat' steps with rfl | ⟨init, ⟨side, sibling⟩, rfl⟩
    · exact absurd (hinj hleaf hnode h) leafMessage_ne_nodeMessage
    · rw [ascend_append_singleton] at h
      rw [forall_stepMessages_append_singleton] at hsteps
      -- the last step joins the roots of the two parts, so the steps before it lead to one of them
      have hjoin := hinj hsteps.2 hnode h
      cases side with
      | left =>
        have hmem := right (fun d hd => hrow d (List.mem_of_mem_drop hd)) hright hsteps.1
          (nodeMessage_injective hjoin).2
        exact List.mem_of_mem_drop hmem
      | right =>
        have hmem := left (fun d hd => hrow d (List.mem_of_mem_take hd)) hleft hsteps.1
          (nodeMessage_injective hjoin).1
        exact List.mem_of_mem_take hmem

/-! ### The place -/

private theorem exists_last_of_length_eq_succ {path : List Digest} {n : Nat}
    (h : path.length = n + 1) :
    ∃ init sibling, path = init ++ [sibling] ∧ init.length = n := by
  rcases List.eq_nil_or_concat' path with rfl | ⟨init, sibling, rfl⟩
  · exact absurd h (Nat.zero_ne_add_one n)
  · exact ⟨init, sibling, rfl, Nat.succ.inj ((List.length_append ..).symm.trans h)⟩

/-- A path of the right length that leads from a node to the root of a row is the path of that node
in the row. -/
theorem eq_pathOf_of_ascend_eq (hinj : Set.InjOn hash M) {node : Digest} {i : Nat}
    {path : List Digest} (hi : i < row.length)
    (hlength : path.length = (sides i (row.length - 1)).length)
    (hroot : ∀ m ∈ rootMessages hash row, m ∈ M)
    (hsteps : ∀ m ∈ stepMessages hash node (steps i row.length path), m ∈ M)
    (h : ascend hash node (steps i row.length path) = rootOf hash row) :
    row[i]? = some node ∧ path = pathOf hash i row := by
  induction row using splitInduction generalizing i path with
  | nil => exact absurd hi (Nat.not_lt_zero i)
  | singleton a =>
    obtain rfl : i = 0 := Nat.lt_one_iff.1 hi
    obtain rfl : path = [] := List.eq_nil_of_length_eq_zero (by simpa using hlength)
    exact ⟨by simpa [steps, rootOf, eq_comm] using h, by rw [pathOf]⟩
  | split row htwo left right =>
    rw [forall_rootMessages_split htwo] at hroot
    obtain ⟨hleft, hright, hnode⟩ := hroot
    rw [rootOf_split htwo] at h
    -- the last step joins what the steps below came to with a sibling, as the root joins its parts
    rcases Nat.lt_or_ge i (splitPoint row.length) with hlt | hge
    · rw [length_sides_of_lt htwo hlt] at hlength
      obtain ⟨init, sibling, rfl, hinit⟩ := exists_last_of_length_eq_succ hlength
      rw [steps_of_lt htwo hlt hinit, ascend_append_singleton] at h
      rw [steps_of_lt htwo hlt hinit, forall_stepMessages_append_singleton] at hsteps
      obtain ⟨hbelow, hsibling⟩ := nodeMessage_injective (hinj hsteps.2 hnode h)
      obtain ⟨hget, hpath⟩ := left (lt_length_take htwo hlt) hinit hleft hsteps.1 hbelow
      rw [List.getElem?_take_of_lt hlt] at hget
      exact ⟨hget, by rw [pathOf_of_lt htwo hlt, ← hpath, ← hsibling]⟩
    · rw [length_sides_of_le hge hi] at hlength
      obtain ⟨init, sibling, rfl, hinit⟩ := exists_last_of_length_eq_succ hlength
      rw [steps_of_le hge hi hinit, ascend_append_singleton] at h
      rw [steps_of_le hge hi hinit, forall_stepMessages_append_singleton] at hsteps
      obtain ⟨hsibling, hbelow⟩ := nodeMessage_injective (hinj hsteps.2 hnode h)
      obtain ⟨hget, hpath⟩ := right (lt_length_drop hge hi) hinit hright hsteps.1 hbelow
      rw [getElem?_drop_splitPoint hge] at hget
      exact ⟨hget, by rw [pathOf_of_le htwo hge, ← hpath, ← hsibling]⟩

end Merkle

open Merkle

/-! ### Proofs and trees -/

section Proof

variable {hash : Bytes → Digest} {t : CommitmentTree} {p : MembershipProof}

/-- A leaf with the hash of the proven packet is that packet. -/
private theorem eq_leaf_of_leafHash_eq
    (hinj : Set.InjOn hash {m | m ∈ t.messages hash ∨ m ∈ p.messages hash}) {q : Packet}
    (hq : q ∈ t.leaves) (h : leafHash hash q = leafHash hash p.leaf) : q = p.leaf := by
  have htree : leafMessage q ∈ t.messages hash := t.leafMessage_mem_messages hq
  have hproof : leafMessage p.leaf ∈ p.messages hash := p.leafMessage_mem_messages
  exact leafMessage_injective (hinj (.inl htree) (.inr hproof) h)

/-- A proof with the root of a tree is about one of its leaves. -/
theorem leaf_mem_of_root_eq
    (hinj : Set.InjOn hash {m | m ∈ t.messages hash ∨ m ∈ p.messages hash})
    (hroot : p.root hash = .ok (t.root hash)) : p.leaf ∈ t.leaves := by
  obtain ⟨hrange, -, hascend⟩ := foldPath_eq_ok_iff.1 hroot
  have hleaf : leafMessage p.leaf ∈ {m | m ∈ t.messages hash ∨ m ∈ p.messages hash} :=
    .inr p.leafMessage_mem_messages
  have hrow : ∀ d ∈ t.hashes hash, ∃ q,
      leafMessage q ∈ {m | m ∈ t.messages hash ∨ m ∈ p.messages hash} ∧ leafHash hash q = d := by
    intro d hd
    obtain ⟨q, hq, rfl⟩ := List.mem_map.1 hd
    exact ⟨q, .inl (t.leafMessage_mem_messages hq), rfl⟩
  have hmem := mem_of_ascend_eq hinj hleaf hrow (fun m hm => .inl (t.mem_messages_of_root hm))
    (fun m hm => .inr (p.mem_messages_of_steps hrange hm)) hascend
  obtain ⟨q, hq, hhash⟩ := List.mem_map.1 hmem
  exact eq_leaf_of_leafHash_eq hinj hq hhash ▸ hq

/-- A proof with the root of a tree and its number of leaves names the place of its leaf and the
siblings there. -/
theorem place_of_root_eq
    (hinj : Set.InjOn hash {m | m ∈ t.messages hash ∨ m ∈ p.messages hash})
    (hroot : p.root hash = .ok (t.root hash)) (hcount : p.leafCount.toNat = t.size) :
    t.leaves[p.leafIndex.toNat]? = some p.leaf ∧
      t.auditPath? hash p.leafIndex.toNat = some p.siblings := by
  obtain ⟨hrange, hlength, hascend⟩ := foldPath_eq_ok_iff.1 hroot
  have hsteps : ∀ m ∈ stepMessages hash (leafHash hash p.leaf)
      (steps p.leafIndex.toNat p.leafCount.toNat p.siblings), m ∈ p.messages hash :=
    fun m hm => p.mem_messages_of_steps hrange hm
  rw [hcount] at hrange
  rw [hcount, ← CommitmentTree.length_hashes hash] at hlength hascend hsteps
  obtain ⟨hget, hpath⟩ := eq_pathOf_of_ascend_eq hinj (by rwa [CommitmentTree.length_hashes])
    hlength (fun m hm => .inl (t.mem_messages_of_root hm)) (fun m hm => .inr (hsteps m hm)) hascend
  rw [CommitmentTree.hashes, List.getElem?_map] at hget
  obtain ⟨q, hq, hhash⟩ := Option.map_eq_some_iff.1 hget
  have hleaf := eq_leaf_of_leafHash_eq hinj (List.mem_of_getElem? hq) hhash
  exact ⟨hleaf ▸ hq, hpath ▸ CommitmentTree.auditPath?_of_lt hrange⟩

/-- **Soundness.** If the hash function is injective on the messages hashed for the root of a tree
and for a proof, and the proof folds to the root, then its packet is a leaf of the tree, so that
there is none in an empty tree; and if the proof states the number of leaves as it is, then its
packet is the leaf at the stated place and its siblings are the path that the tree gives out. -/
theorem leaf_mem_of_proves (hproves : p.proves hash (t.root hash))
    (hinj : Set.InjOn hash {m | m ∈ t.messages hash ∨ m ∈ p.messages hash}) :
    p.leaf ∈ t.leaves ∧
      (p.leafCount.toNat = t.size → t.leaves[p.leafIndex.toNat]? = some p.leaf ∧
        t.auditPath? hash p.leafIndex.toNat = some p.siblings) := by
  have hroot := MembershipProof.proves_iff.1 hproves
  exact ⟨leaf_mem_of_root_eq hinj hroot, place_of_root_eq hinj hroot⟩

end Proof

/-- A proof of the last of three leaves, which is carried up past the lowest row. -/
def ThreePackets.lastProof : MembershipProof := ⟨90, packet 3, 2, 3, [.replicate 32 1]⟩

open ThreePackets in
/-- The proof of the last of three packets skips a level, and names its place and its one
sibling. -/
theorem leaf_mem_of_proves_last_of_three :
    lastProof.proves checksum (tree.root checksum) ∧
    Set.InjOn checksum {m | m ∈ tree.messages checksum ∨ m ∈ lastProof.messages checksum} ∧
    packet 3 ∈ tree.leaves ∧ lastProof.leafCount.toNat = tree.size ∧
    tree.leaves[2]? = some (packet 3) ∧ tree.auditPath? checksum 2 = some [.replicate 32 1] := by
  have hproves : lastProof.proves checksum (tree.root checksum) := by decide +kernel
  have hmessages : ∀ m ∈ tree.messages checksum ++ lastProof.messages checksum,
      ∀ m' ∈ tree.messages checksum ++ lastProof.messages checksum,
      checksum m = checksum m' → m = m' := by decide +kernel
  have hinj : Set.InjOn checksum
      {m | m ∈ tree.messages checksum ∨ m ∈ lastProof.messages checksum} :=
    fun m hm m' hm' => hmessages m (List.mem_append.2 hm) m' (List.mem_append.2 hm')
  have hcount : lastProof.leafCount.toNat = tree.size := by decide +kernel
  obtain ⟨hmem, hplace⟩ := leaf_mem_of_proves hproves hinj
  obtain ⟨hget, hpath⟩ := hplace hcount
  exact ⟨hproves, hinj, hmem, hcount, hget, hpath⟩

end Attestation
