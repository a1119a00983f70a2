import Attestation.Merkle.Tree

/-!
# Folding audit paths

The verifier of an audit path knows the place of a leaf and the number of leaves, and folds the
siblings into the root without seeing the tree. It climbs with the index of the node and the index
of the last node of its row. On the right border a node without a sibling is carried up unchanged,
so levels are skipped there.
-/

namespace Attestation.Merkle

/-- Why a path does not fold. -/
inductive PathError where
  /-- The index is not below the number of leaves. -/
  | outOfRange (index count : Nat)
  /-- A sibling is left when the root is reached. -/
  | tooLong
  /-- The siblings end below the root. -/
  | tooShort
deriving DecidableEq

/-- The text of a path error. -/
def PathError.message : PathError → String
  | outOfRange index count => s!"leaf index {index} out of range for {count} leaves"
  | tooLong => "malformed audit path: path longer than tree depth"
  | tooShort => "malformed audit path: path shorter than tree depth"

/-- Climbs from `(index, last)` past the levels at which the node has no sibling of its own. -/
def skipLevels (index last : Nat) : Nat × Nat :=
  if index % 2 = 0 ∧ index ≠ 0 then skipLevels (index / 2) (last / 2) else (index, last)
termination_by index

/-- Folds the remaining siblings into a node at `index` of a row whose last node is at `last`. -/
def climb (hash : Bytes → Digest) : List Digest → (index last : Nat) → Digest →
    Except PathError Digest
  | [], _, last, node => if last = 0 then .ok node else .error .tooShort
  | sibling :: rest, index, last, node =>
    if last = 0 then .error .tooLong
    else if index % 2 = 1 ∨ index = last then
      let (i, l) := skipLevels index last
      climb hash rest (i / 2) (l / 2) (nodeHash hash sibling node)
    else
      climb hash rest (index / 2) (last / 2) (nodeHash hash node sibling)

/-- The root to which a path folds, from the leaf at `index` of `count` leaves. -/
def foldPath (hash : Bytes → Digest) (leaf : Digest) (index count : Nat) (path : List Digest) :
    Except PathError Digest :=
  if index ≥ count then .error (.outOfRange index count)
  else climb hash path index (count - 1) leaf

end Attestation.Merkle
