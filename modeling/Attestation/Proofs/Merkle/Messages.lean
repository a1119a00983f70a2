import Attestation.Merkle.Proof
import Attestation.Proofs.Bytes
import Attestation.Proofs.Merkle.Sides
import Mathlib.Data.Set.Operations

/-!
# Hashed messages

The messages that are hashed for the root of a tree and for the root a proof folds to, on which
alone the two roots depend (`CommitmentTree.root_congr`, `MembershipProof.root_congr`). Messages of
leaves, of inner nodes and of the empty tree differ, and each determines what it was made of. So a
hash function without collisions among the messages keeps all of them apart.
-/

namespace Attestation

namespace Merkle

/-! ### Messages determine what is hashed -/

/-- Two blocks of one width are told apart. -/
private theorem append_inj_of_fixedBytes {n : Nat} {a b c d : FixedBytes n}
    (h : a.toBytes ++ b.toBytes = c.toBytes ++ d.toBytes) : a = c ∧ b = d :=
  (FixedBytes.toBytes_append_inj h).imp_right fun hright => FixedBytes.toBytes_injective hright

/-- The message of a leaf tells the packet. -/
theorem leafMessage_injective {p q : Packet} (h : leafMessage p = leafMessage q) : p = q := by
  obtain ⟨hpath, hcommitment⟩ := append_inj_of_fixedBytes (List.cons.inj h).2
  cases p
  cases q
  exact Packet.mk.injEq .. ▸ ⟨hpath, hcommitment⟩

/-- The message of a node tells its two parts. -/
theorem nodeMessage_injective {left right left' right' : Digest}
    (h : nodeMessage left right = nodeMessage left' right') : left = left' ∧ right = right' :=
  append_inj_of_fixedBytes (List.cons.inj h).2

/-- No leaf is hashed as a node: the first bytes differ. -/
theorem leafMessage_ne_nodeMessage {p : Packet} {left right : Digest} :
    leafMessage p ≠ nodeMessage left right :=
  fun h => absurd (List.cons.inj h).1 (by decide)

theorem leafMessage_ne_nil {p : Packet} : leafMessage p ≠ [] := List.cons_ne_nil _ _

/-- To fold a sibling into a node is to hash a message of an inner node. -/
private theorem exists_joinMessage_eq (node : Digest) (step : Side × Digest) :
    ∃ left right, joinMessage node step = nodeMessage left right := by
  obtain ⟨side, sibling⟩ := step
  cases side with
  | left => exact ⟨sibling, node, rfl⟩
  | right => exact ⟨node, sibling, rfl⟩

/-- No leaf is hashed as a step up the tree. -/
theorem leafMessage_ne_joinMessage {p : Packet} {node : Digest} {step : Side × Digest} :
    leafMessage p ≠ joinMessage node step := by
  obtain ⟨left, right, heq⟩ := exists_joinMessage_eq node step
  rw [heq]
  exact leafMessage_ne_nodeMessage

theorem joinMessage_ne_nil {node : Digest} {step : Side × Digest} : joinMessage node step ≠ [] := by
  obtain ⟨left, right, heq⟩ := exists_joinMessage_eq node step
  rw [heq]
  exact List.cons_ne_nil _ _

/-! ### Messages of a row -/

/-- The messages that are hashed for the root over a row. -/
def rootMessages (hash : Bytes → Digest) : List Digest → List Bytes
  | [] => [[]]
  | [_] => []
  | a :: b :: rest =>
    let k := splitPoint (rest.length + 2)
    let left := (a :: b :: rest).take k
    let right := (a :: b :: rest).drop k
    rootMessages hash left ++ rootMessages hash right ++
      [nodeMessage (rootOf hash left) (rootOf hash right)]
termination_by row => row.length
decreasing_by
  · simp only [List.length_take, List.length_cons]
    have := splitPoint_lt (n := rest.length + 2) (by omega)
    omega
  · simp only [List.length_drop, List.length_cons]
    have := splitPoint_pos (rest.length + 2)
    omega

/-- The messages that are hashed to fold siblings into a node. -/
def stepMessages (hash : Bytes → Digest) (node : Digest) : List (Side × Digest) → List Bytes
  | [] => []
  | step :: rest =>
    joinMessage node step :: stepMessages hash (hash (joinMessage node step)) rest

variable {hash : Bytes → Digest} {row : List Digest} {node : Digest}

/-- For two leaves or more, what is hashed is what is hashed for the two parts, and the node above
them. -/
private theorem rootMessages_split (hrow : 2 ≤ row.length) :
    rootMessages hash row =
      rootMessages hash (row.take (splitPoint row.length)) ++
        rootMessages hash (row.drop (splitPoint row.length)) ++
      [nodeMessage (rootOf hash (row.take (splitPoint row.length)))
        (rootOf hash (row.drop (splitPoint row.length)))] := by
  match row, hrow with
  | a :: b :: rest, _ => rw [rootMessages]; rfl

/-- What holds of all hashed messages holds of those of the two parts and of the node above them. -/
theorem forall_rootMessages_split {M : Set Bytes} (hrow : 2 ≤ row.length) :
    (∀ m ∈ rootMessages hash row, m ∈ M) ↔
      (∀ m ∈ rootMessages hash (row.take (splitPoint row.length)), m ∈ M) ∧
      (∀ m ∈ rootMessages hash (row.drop (splitPoint row.length)), m ∈ M) ∧
      nodeMessage (rootOf hash (row.take (splitPoint row.length)))
        (rootOf hash (row.drop (splitPoint row.length))) ∈ M := by
  rw [rootMessages_split hrow, List.forall_mem_append, List.forall_mem_append,
    List.forall_mem_singleton, and_assoc]

private theorem stepMessages_append_singleton {steps : List (Side × Digest)}
    {step : Side × Digest} :
    stepMessages hash node (steps ++ [step]) =
      stepMessages hash node steps ++ [joinMessage (ascend hash node steps) step] := by
  induction steps generalizing node with
  | nil => rfl
  | cons first rest ih => rw [List.cons_append, stepMessages, ih]; rfl

/-- What holds of all hashed messages holds of those before the last step and of the last. -/
theorem forall_stepMessages_append_singleton {M : Set Bytes} {steps : List (Side × Digest)}
    {step : Side × Digest} :
    (∀ m ∈ stepMessages hash node (steps ++ [step]), m ∈ M) ↔
      (∀ m ∈ stepMessages hash node steps, m ∈ M) ∧
      joinMessage (ascend hash node steps) step ∈ M := by
  rw [stepMessages_append_singleton, List.forall_mem_append, List.forall_mem_singleton]

/-! ### Roots depend on their messages -/

section Congr

variable {hash' : Bytes → Digest}

/-- A root depends on the hash of the messages that are hashed for it only. -/
private theorem rootOf_congr (h : ∀ m ∈ rootMessages hash row, m ∈ {m | hash' m = hash m}) :
    rootOf hash' row = rootOf hash row := by
  induction row using splitInduction with
  | nil => simpa [rootOf, rootMessages, emptyRoot] using h
  | singleton a => rw [rootOf, rootOf]
  | split row hrow left right =>
    obtain ⟨hleft, hright, hnode⟩ := (forall_rootMessages_split hrow).1 h
    rw [rootOf_split hrow, rootOf_split hrow, left hleft, right hright]
    exact hnode

private theorem ascend_congr {steps : List (Side × Digest)}
    (h : ∀ m ∈ stepMessages hash node steps, hash' m = hash m) :
    ascend hash' node steps = ascend hash node steps := by
  induction steps generalizing node with
  | nil => rfl
  | cons step rest ih =>
    obtain ⟨hstep, hrest⟩ := List.forall_mem_cons.1 h
    rw [ascend, ascend, List.foldl_cons, List.foldl_cons, hstep]
    exact ih hrest

end Congr

end Merkle

open Merkle

/-- The messages that are hashed for the root of a tree. -/
def CommitmentTree.messages (hash : Bytes → Digest) (t : CommitmentTree) : List Bytes :=
  t.leaves.map leafMessage ++ rootMessages hash (t.hashes hash)

/-- The messages that are hashed for the root a proof folds to. -/
def MembershipProof.messages (hash : Bytes → Digest) (p : MembershipProof) : List Bytes :=
  leafMessage p.leaf ::
    if p.leafIndex < p.leafCount then
      stepMessages hash (leafHash hash p.leaf)
        (steps p.leafIndex.toNat p.leafCount.toNat p.siblings)
    else []

variable {hash : Bytes → Digest} {t : CommitmentTree} {p : MembershipProof} {m : Bytes}

theorem CommitmentTree.leafMessage_mem_messages {q : Packet} (hq : q ∈ t.leaves) :
    leafMessage q ∈ t.messages hash :=
  List.mem_append_left _ (List.mem_map_of_mem hq)

theorem CommitmentTree.mem_messages_of_root (hm : m ∈ rootMessages hash (t.hashes hash)) :
    m ∈ t.messages hash :=
  List.mem_append_right _ hm

theorem MembershipProof.leafMessage_mem_messages : leafMessage p.leaf ∈ p.messages hash :=
  List.mem_cons_self

/-- Within the tree the messages on the way up are hashed for the root of the proof. -/
theorem MembershipProof.mem_messages_of_steps (hrange : p.leafIndex.toNat < p.leafCount.toNat)
    (hm : m ∈ stepMessages hash (leafHash hash p.leaf)
      (steps p.leafIndex.toNat p.leafCount.toNat p.siblings)) :
    m ∈ p.messages hash := by
  rw [messages, if_pos (UInt64.lt_iff_toNat_lt.2 hrange)]
  exact List.mem_cons_of_mem _ hm

/-- That no two of some listed messages collide can be checked message by message. -/
theorem injOn_of_forall {l l' : List Bytes}
    (h : ∀ m ∈ l ++ l', ∀ m' ∈ l ++ l', hash m = hash m' → m = m') :
    Set.InjOn hash {m | m ∈ l ∨ m ∈ l'} :=
  fun m hm m' hm' => h m (List.mem_append.2 hm) m' (List.mem_append.2 hm')

/-- The root of a tree depends on what its messages are hashed to and on nothing else. -/
theorem CommitmentTree.root_congr {hash' : Bytes → Digest}
    (h : ∀ m ∈ t.messages hash, hash' m = hash m) : t.root hash' = t.root hash := by
  have hleaves : t.hashes hash' = t.hashes hash :=
    List.map_congr_left fun q hq => h _ (t.leafMessage_mem_messages hq)
  rw [root, root, hleaves]
  exact rootOf_congr fun m hm => h m (t.mem_messages_of_root hm)

/-- What a proof folds to depends on what its messages are hashed to and on nothing else. -/
theorem MembershipProof.root_congr {hash' : Bytes → Digest}
    (h : ∀ m ∈ p.messages hash, hash' m = hash m) : p.root hash' = p.root hash := by
  have hleaf : leafHash hash' p.leaf = leafHash hash p.leaf := h _ p.leafMessage_mem_messages
  rw [root, root, foldPath, foldPath, hleaf, climb_eq, climb_eq]
  split_ifs with hrange
  · rfl
  · rfl
  · rfl
  · have hsteps := fun m hm => h m (p.mem_messages_of_steps (Nat.lt_of_not_le hrange) hm)
    exact congrArg Except.ok (ascend_congr hsteps)

end Attestation
