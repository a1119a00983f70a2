import Attestation.OrderedMap
import Attestation.Packet

/-!
# Commitment trees

The packets of a chain at one height, in increasing order and each once, form the leaves of a
binary hash tree. A row of at least two hashes is split at the largest power of two below its
length. Leaves are hashed under the tag `0`, inner nodes under the tag `1`, and the root of no
leaves is the digest of the empty message. All is parametric in the hash function.
-/

namespace Attestation

namespace Merkle

/-- The message that is hashed for a leaf. -/
def leafMessage (p : Packet) : Bytes := 0x00 :: p.path.toBytes ++ p.commitment.toBytes

/-- The message that is hashed for an inner node over its two children. -/
def nodeMessage (left right : Digest) : Bytes := 0x01 :: left.toBytes ++ right.toBytes

/-- The hash of a leaf. -/
def leafHash (hash : Bytes → Digest) (p : Packet) : Digest := hash (leafMessage p)

/-- The hash of an inner node over its two children. -/
def nodeHash (hash : Bytes → Digest) (left right : Digest) : Digest :=
  hash (nodeMessage left right)

/-- The root of a tree without leaves. -/
def emptyRoot (hash : Bytes → Digest) : Digest := hash []

/-- Doubles `k` as long as its double stays below `n`. -/
def doubleBelow (n k : Nat) : Nat := if 0 < k ∧ 2 * k < n then doubleBelow n (2 * k) else k
termination_by n - k

/-- Where a row of `n` hashes is split: the largest power of two below `n`. -/
def splitPoint (n : Nat) : Nat := doubleBelow n 1

theorem le_doubleBelow (n k : Nat) : k ≤ doubleBelow n k := by
  fun_induction doubleBelow n k with
  | case1 k h ih => omega
  | case2 k h => exact Nat.le_refl k

theorem doubleBelow_lt {n k : Nat} (hk : k < n) : doubleBelow n k < n := by
  fun_induction doubleBelow n k with
  | case1 k h ih => exact ih h.2
  | case2 k h => exact hk

theorem splitPoint_pos (n : Nat) : 0 < splitPoint n := le_doubleBelow n 1

theorem splitPoint_lt {n : Nat} (h : 2 ≤ n) : splitPoint n < n := doubleBelow_lt h

/-- The root over a row of hashes. -/
def rootOf (hash : Bytes → Digest) : List Digest → Digest
  | [] => emptyRoot hash
  | [leaf] => leaf
  | a :: b :: rest =>
    let k := splitPoint (rest.length + 2)
    nodeHash hash (rootOf hash ((a :: b :: rest).take k)) (rootOf hash ((a :: b :: rest).drop k))
termination_by row => row.length
decreasing_by
  · simp only [List.length_take, List.length_cons]
    have := splitPoint_lt (n := rest.length + 2) (by omega)
    omega
  · simp only [List.length_drop, List.length_cons]
    have := splitPoint_pos (rest.length + 2)
    omega

/-- The siblings on the way from the hash at `index` up to the root, deepest first. -/
def pathOf (hash : Bytes → Digest) (index : Nat) : List Digest → List Digest
  | [] => []
  | [_] => []
  | a :: b :: rest =>
    let k := splitPoint (rest.length + 2)
    let left := (a :: b :: rest).take k
    let right := (a :: b :: rest).drop k
    if index < k then pathOf hash index left ++ [rootOf hash right]
    else pathOf hash (index - k) right ++ [rootOf hash left]
termination_by row => row.length
decreasing_by
  · simp only [List.length_take, List.length_cons]
    have := splitPoint_lt (n := rest.length + 2) (by omega)
    omega
  · simp only [List.length_drop, List.length_cons]
    have := splitPoint_pos (rest.length + 2)
    omega

end Merkle

/-- The packets of one height in canonical order. -/
structure CommitmentTree where
  /-- The leaves, strictly increasing. -/
  leaves : List Packet
  sorted : leaves.Pairwise (compare · · = .lt)

namespace CommitmentTree

/-- The tree over a listing of packets, in any order and with repetitions. -/
def ofList (packets : List Packet) : CommitmentTree :=
  ⟨sortedSet packets, pairwise_sortedSet packets⟩

/-- The number of leaves. -/
def size (t : CommitmentTree) : Nat := t.leaves.length

/-- The hashes of the leaves. -/
def hashes (hash : Bytes → Digest) (t : CommitmentTree) : List Digest :=
  t.leaves.map (Merkle.leafHash hash)

/-- The root of the tree. -/
def root (hash : Bytes → Digest) (t : CommitmentTree) : Digest :=
  Merkle.rootOf hash (t.hashes hash)

/-- The siblings from the leaf at `index` up to the root, deepest first, if there is such a leaf. -/
def auditPath? (hash : Bytes → Digest) (t : CommitmentTree) (index : Nat) : Option (List Digest) :=
  if index < t.size then some (Merkle.pathOf hash index (t.hashes hash)) else none

/-- The place of the last leaf under a path. -/
def position? (t : CommitmentTree) (path : Digest) : Option Nat :=
  (t.leaves.zipIdx.reverse.find? fun e => e.1.path == path).map (·.2)

end CommitmentTree

end Attestation
