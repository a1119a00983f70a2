import Attestation.Proofs.Merkle.Listing
import Attestation.Proofs.Merkle.Messages

/-!
# Roots bind their packets

If no two of the messages hashed for two roots collide, then equal roots are roots over the same
packets. The root over some packets is the hash of one message (`topMessage`), which tells by its
tag whether there are no packets, one or more, and holds the packet or the roots of the two parts.
So equal roots come of equal messages, and by induction on one of the two trees its packets are
those of the other (`eq_of_packetRoot_eq`); that the trees have the same shape need not be known
before.
-/

namespace Attestation

namespace Merkle

variable {hash : Bytes → Digest} {M : Set Bytes} {packets others : List Packet}

/-! ### The message of a root -/

/-- The root over some packets. -/
def packetRoot (hash : Bytes → Digest) (packets : List Packet) : Digest :=
  rootOf hash (packets.map (leafHash hash))

/-- The message whose hash is the root over some packets. -/
def topMessage (hash : Bytes → Digest) : List Packet → Bytes
  | [] => []
  | [p] => leafMessage p
  | packets =>
    nodeMessage (packetRoot hash (packets.take (splitPoint packets.length)))
      (packetRoot hash (packets.drop (splitPoint packets.length)))

/-- For two packets or more the top message joins the roots of the two parts. -/
theorem topMessage_split (hlong : 2 ≤ packets.length) :
    topMessage hash packets =
      nodeMessage (packetRoot hash (packets.take (splitPoint packets.length)))
        (packetRoot hash (packets.drop (splitPoint packets.length))) := by
  match packets, hlong with
  | p :: q :: rest, _ => rfl

/-- A root is the digest of its top message. -/
theorem packetRoot_eq_hash (packets : List Packet) :
    packetRoot hash packets = hash (topMessage hash packets) := by
  match packets with
  | [] => simp [packetRoot, rootOf, emptyRoot, topMessage]
  | [p] => simp [packetRoot, rootOf, leafHash, topMessage]
  | p :: q :: rest =>
    have hlong : 2 ≤ ((p :: q :: rest).map (leafHash hash)).length := by simp
    rw [packetRoot, rootOf_split hlong, List.length_map, ← List.map_take, ← List.map_drop]
    rfl

/-! ### Messages in a set -/

/-- All messages that are hashed for the root over some packets are in a set. -/
structure HashedIn (hash : Bytes → Digest) (M : Set Bytes) (packets : List Packet) : Prop where
  leaves : ∀ p ∈ packets, leafMessage p ∈ M
  nodes : ∀ m ∈ rootMessages hash (packets.map (leafHash hash)), m ∈ M

/-- What is hashed for a root is hashed for its two parts, and its top message. -/
theorem HashedIn.split (h : HashedIn hash M packets) (hlong : 2 ≤ packets.length) :
    HashedIn hash M (packets.take (splitPoint packets.length)) ∧
      HashedIn hash M (packets.drop (splitPoint packets.length)) ∧
      topMessage hash packets ∈ M := by
  have hrow : 2 ≤ (packets.map (leafHash hash)).length := by rwa [List.length_map]
  obtain ⟨hleft, hright, htop⟩ := (forall_rootMessages_split hrow).1 h.nodes
  rw [List.length_map, ← List.map_take] at hleft htop
  rw [List.length_map, ← List.map_drop] at hright
  rw [← List.map_drop] at htop
  refine ⟨⟨fun p hp => h.leaves p (List.mem_of_mem_take hp), hleft⟩,
    ⟨fun p hp => h.leaves p (List.mem_of_mem_drop hp), hright⟩, ?_⟩
  rw [topMessage_split hlong]
  exact htop

private theorem HashedIn.topMessage_mem (h : HashedIn hash M packets) :
    topMessage hash packets ∈ M := by
  match packets with
  | [] => exact h.nodes [] (by simp [rootMessages])
  | [p] => exact h.leaves p List.mem_cons_self
  | p :: q :: rest => exact (h.split (by simp)).2.2

/-! ### Equal roots -/

/-- Without collisions, equal roots are hashes of the same message. -/
private theorem topMessage_eq (hinj : Set.InjOn hash M) (h : HashedIn hash M packets)
    (h' : HashedIn hash M others) (hroot : packetRoot hash packets = packetRoot hash others) :
    topMessage hash packets = topMessage hash others := by
  rw [packetRoot_eq_hash, packetRoot_eq_hash] at hroot
  exact hinj h.topMessage_mem h'.topMessage_mem hroot

/-- Without collisions, the root over some packets is that of no others. -/
theorem eq_of_packetRoot_eq (hinj : Set.InjOn hash M) (h : HashedIn hash M packets)
    (h' : HashedIn hash M others) (hroot : packetRoot hash packets = packetRoot hash others) :
    packets = others := by
  -- on the first tree; which shape the second one has follows from the tag of its top message
  induction packets using splitInduction generalizing others with
  | nil =>
    have htop := topMessage_eq hinj h h' hroot
    match others with
    | [] => rfl
    | [q] => exact absurd htop.symm leafMessage_ne_nil
    | q :: q' :: rest => exact absurd htop.symm (List.cons_ne_nil _ _)
  | singleton p =>
    have htop := topMessage_eq hinj h h' hroot
    match others with
    | [] => exact absurd htop leafMessage_ne_nil
    | [q] => rw [leafMessage_injective htop]
    | q :: q' :: rest => exact absurd htop leafMessage_ne_nodeMessage
  | split packets hlong left right =>
    have htop := topMessage_eq hinj h h' hroot
    rw [topMessage_split hlong] at htop
    match others with
    | [] => exact absurd htop (List.cons_ne_nil _ _)
    | [q] => exact absurd htop.symm leafMessage_ne_nodeMessage
    | q :: q' :: rest =>
      have hlong' : 2 ≤ (q :: q' :: rest).length := by simp
      obtain ⟨hleft, hright, -⟩ := h.split hlong
      obtain ⟨hleft', hright', -⟩ := h'.split hlong'
      rw [topMessage_split hlong'] at htop
      -- the two parts may be split elsewhere, yet their packets are the same
      obtain ⟨hroot₁, hroot₂⟩ := nodeMessage_injective htop
      have htake := left hleft hleft' hroot₁
      have hdrop := right hright hright' hroot₂
      calc packets
          = packets.take (splitPoint packets.length) ++ packets.drop (splitPoint packets.length) :=
            (List.take_append_drop _ _).symm
        _ = q :: q' :: rest := by rw [htake, hdrop, List.take_append_drop]

end Merkle

open Merkle

/-! ### Trees -/

namespace CommitmentTree

variable {hash : Bytes → Digest} {t t' : CommitmentTree}

/-- The messages of a tree are all that is hashed for its root. -/
private theorem hashedIn_messages {M : Set Bytes} (h : ∀ m ∈ t.messages hash, m ∈ M) :
    HashedIn hash M t.leaves where
  leaves _ hp := h _ (t.leafMessage_mem_messages hp)
  nodes _ hm := h _ (t.mem_messages_of_root hm)

/-- Trees with the same root are equal, if no two of their messages collide. -/
theorem eq_of_root_eq
    (hinj : Set.InjOn hash {m | m ∈ t.messages hash ∨ m ∈ t'.messages hash})
    (hroot : t.root hash = t'.root hash) : t = t' := by
  have hleaves : t.leaves = t'.leaves :=
    eq_of_packetRoot_eq hinj (hashedIn_messages fun _ hm => .inl hm)
      (hashedIn_messages fun _ hm => .inr hm) hroot
  rw [mk.injEq]
  exact hleaves

end CommitmentTree

/-- **A root identifies a set of packets.** Listings of the same packets, in whatever order and with
whatever repetitions, have the same leaves and the same root. Conversely, if the hash function is
injective on the messages hashed for two roots and the roots are equal, then the two listings hold
the same packets, and so their trees have the same size. -/
theorem roots_identify_packets (hash : Bytes → Digest) (listing listing' : List Packet) :
    ((∀ packet, packet ∈ listing ↔ packet ∈ listing') →
      (CommitmentTree.ofList listing).leaves = (CommitmentTree.ofList listing').leaves ∧
        (CommitmentTree.ofList listing).root hash = (CommitmentTree.ofList listing').root hash) ∧
    (Set.InjOn hash {m | m ∈ (CommitmentTree.ofList listing).messages hash ∨
        m ∈ (CommitmentTree.ofList listing').messages hash} →
      (CommitmentTree.ofList listing).root hash = (CommitmentTree.ofList listing').root hash →
        (∀ packet, packet ∈ listing ↔ packet ∈ listing') ∧
          (CommitmentTree.ofList listing).size = (CommitmentTree.ofList listing').size) := by
  constructor
  · intro hsame
    rw [CommitmentTree.ofList_congr hsame]
    exact ⟨rfl, rfl⟩
  · intro hinj hroot
    have htree := CommitmentTree.eq_of_root_eq hinj hroot
    refine ⟨fun packet => ?_, congrArg CommitmentTree.size htree⟩
    rw [← CommitmentTree.mem_leaves_ofList, htree, CommitmentTree.mem_leaves_ofList]

namespace ThreePackets

/-- The packets of the listing in another order, another one of them twice. -/
def relisting : List Packet := [packet 2, packet 3, packet 1, packet 2]

end ThreePackets

open ThreePackets in
/-- The listings have one root, and it is not the root over two of the packets. -/
theorem roots_identify_packets_relisting :
    tree.leaves = (CommitmentTree.ofList relisting).leaves ∧
    tree.root checksum = (CommitmentTree.ofList relisting).root checksum ∧
    Set.InjOn checksum {m | m ∈ tree.messages checksum ∨
      m ∈ (CommitmentTree.ofList relisting).messages checksum} ∧
    tree.size = (CommitmentTree.ofList relisting).size ∧
    Set.InjOn checksum {m | m ∈ tree.messages checksum ∨
      m ∈ (CommitmentTree.ofList [packet 2, packet 1]).messages checksum} ∧
    tree.root checksum ≠ (CommitmentTree.ofList [packet 2, packet 1]).root checksum := by
  have hsame : ∀ p, p ∈ listing ↔ p ∈ relisting := by
    intro p
    simp only [listing, relisting, List.mem_cons, List.not_mem_nil, or_false]
    tauto
  obtain ⟨hleaves, hroot⟩ := (roots_identify_packets checksum listing relisting).1 hsame
  have hinj : Set.InjOn checksum {m | m ∈ tree.messages checksum ∨
      m ∈ (CommitmentTree.ofList relisting).messages checksum} :=
    injOn_of_forall (by decide +kernel)
  have hinj' : Set.InjOn checksum {m | m ∈ tree.messages checksum ∨
      m ∈ (CommitmentTree.ofList [packet 2, packet 1]).messages checksum} :=
    injOn_of_forall (by decide +kernel)
  have hsize := ((roots_identify_packets checksum listing relisting).2 hinj hroot).2
  refine ⟨hleaves, hroot, hinj, hsize, hinj', fun hequal => ?_⟩
  have hpackets := ((roots_identify_packets checksum listing [packet 2, packet 1]).2 hinj' hequal).1
  exact absurd ((hpackets (packet 3)).1 (by decide)) (by decide)

end Attestation
