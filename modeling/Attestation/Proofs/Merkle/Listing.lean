import Attestation.Proofs.Merkle.Completeness
import Attestation.Proofs.OrderedMap
import Mathlib.Data.Finset.Card

/-!
# Listings of packets

A tree does not depend on how its packets are listed: all listings of one set of packets give the
same tree (`CommitmentTree.ofList_congr`), with one leaf per packet of the set. The bundle over the
tree holds a proof of each packet, and what it finds under a path is the proof of the least packet
there (`ProofBundle.Covers.proofFor?_eq_some_iff`).
-/

namespace Attestation

/-! ### Trees over a set of packets -/

namespace CommitmentTree

variable {listing listing' : List Packet} {packet : Packet}

/-- The leaves of a tree are the listed packets. -/
@[simp]
theorem mem_leaves_ofList : packet ∈ (ofList listing).leaves ↔ packet ∈ listing := mem_sortedSet

/-- Listings of the same packets give the same tree. -/
theorem ofList_congr (h : ∀ packet, packet ∈ listing ↔ packet ∈ listing') :
    ofList listing = ofList listing' := by
  have hleaves : (ofList listing).leaves = (ofList listing').leaves :=
    eq_of_increasing (ofList listing).sorted (ofList listing').sorted fun packet => by
      rw [mem_leaves_ofList, mem_leaves_ofList, h packet]
  rw [mk.injEq]
  exact hleaves

/-- A tree has one leaf per packet. -/
theorem size_ofList : (ofList listing).size = listing.toFinset.card := by
  have hset : listing.toFinset = (ofList listing).leaves.toFinset := by
    ext packet
    rw [List.mem_toFinset, List.mem_toFinset, mem_leaves_ofList]
  rw [hset, List.toFinset_card_of_nodup (Increasing.nodup (ofList listing).sorted), size]

end CommitmentTree

/-! ### Proofs in a bundle -/

namespace ProofBundle.Covers

variable {hash : Bytes → Digest} {b : ProofBundle} {t : CommitmentTree} {packet : Packet}

/-- Each leaf of the tree has a proof in the bundle. -/
theorem exists_proof (h : b.Covers hash t) (hleaf : packet ∈ t.leaves) :
    ∃ p ∈ b.proofs, p.leaf = packet := by
  rw [← h.leaves] at hleaf
  exact List.mem_map.1 hleaf

/-- All proofs are for the height of the bundle. -/
theorem height_eq (h : b.Covers hash t) {p : MembershipProof} (hp : p ∈ b.proofs) :
    p.height = b.height := by
  obtain ⟨i, hi⟩ := List.mem_iff_getElem?.1 hp
  exact (h.place i p hi).2.2

/-- The proof found under the path of its packet is that of the least packet there. -/
theorem proofFor?_eq_some_iff (h : b.Covers hash t) {p : MembershipProof} (hp : p ∈ b.proofs) :
    b.proofFor? p.leaf.path = some p ↔
      ∀ other ∈ t.leaves, other.path = p.leaf.path → (compare p.leaf other).isLE := by
  have hsorted := h.leaves ▸ t.sorted
  rw [← h.leaves, proofFor?]
  constructor
  -- leaves are sorted, so what stands behind the found proof is greater
  · intro hfind other hother hpath
    obtain ⟨-, before, after, hproofs, hbefore⟩ := List.find?_eq_some_iff_append.1 hfind
    rw [hproofs, List.map_append, List.map_cons] at hsorted hother
    rcases List.mem_append.1 hother with hother | hother
    · obtain ⟨q, hq, rfl⟩ := List.mem_map.1 hother
      exact absurd hpath (by simpa using hbefore q hq)
    · rcases List.mem_cons.1 hother with rfl | hother
      · rw [Std.ReflOrd.compare_self]
        rfl
      · have hlt := (List.pairwise_cons.1 (List.pairwise_append.1 hsorted).2.1).1 other hother
        rw [hlt]
        rfl
  -- what stands before the least one is smaller, so it is not under the path
  · intro hleast
    obtain ⟨before, after, hproofs⟩ := List.append_of_mem hp
    refine List.find?_eq_some_iff_append.2 ⟨by simp, before, after, hproofs, fun q hq => ?_⟩
    rw [hproofs, List.map_append, List.map_cons] at hsorted hleast
    have hlt : compare q.leaf p.leaf = .lt :=
      (List.pairwise_append.1 hsorted).2.2 _ (List.mem_map_of_mem hq) _ List.mem_cons_self
    by_contra hfound
    have hle := hleast q.leaf (List.mem_append_left _ (List.mem_map_of_mem hq))
      (by simpa using hfound)
    exact absurd hlt (Std.OrientedCmp.not_lt_of_isLE hle)

end ProofBundle.Covers

end Attestation
