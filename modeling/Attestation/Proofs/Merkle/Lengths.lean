import Attestation.Proofs.Merkle.Completeness
import Mathlib.Order.Bounds.Basic

/-!
# Lengths of audit paths

How many siblings lie between a leaf and the root is a matter of the shape of the tree alone:
`pathLength` goes down from the root and at each split, at the largest power of two below the number
of leaves, turns to the part that holds the leaf. The verifier does not see the tree; it climbs on
the index and the last place, and halves both, several times in a row on the right border. Its sides
go the way of the tree all the same, so there are as many of them (`length_sides`), and whether a
path folds, or is too long or too short, depends on its length alone (`folds_by_length`). No path of
more siblings than a word has bits folds (`MembershipProof.length_siblings_le`).
-/

namespace Attestation

namespace Merkle

/-! ### Powers of two -/

/-- The largest power of two below a number that is not less than two. -/
def powerBelow (n : Nat) : Nat := 2 ^ Nat.log2 (n - 1)

private theorem powerBelow_pos (n : Nat) : 0 < powerBelow n := Nat.two_pow_pos _

section Power

variable {n : Nat}

private theorem powerBelow_lt (hn : 2 ≤ n) : powerBelow n < n := by
  have hle : powerBelow n ≤ n - 1 := Nat.log2_self_le (by omega)
  omega

/-- No greater power of two is below the number. -/
theorem isGreatest_powerBelow (hn : 2 ≤ n) :
    IsGreatest {k | (∃ j, k = 2 ^ j) ∧ k < n} (powerBelow n) := by
  refine ⟨⟨⟨_, rfl⟩, powerBelow_lt hn⟩, ?_⟩
  rintro k ⟨⟨j, rfl⟩, hlt⟩
  have hlog : j ≤ Nat.log2 (n - 1) := (Nat.le_log2 (by omega)).2 (by omega)
  exact Nat.pow_le_pow_right (by decide) hlog

/-- Rows are split at the largest power of two below their length. -/
theorem splitPoint_eq_powerBelow (hn : 2 ≤ n) : splitPoint n = powerBelow n := by
  obtain ⟨j, hsplit, hlow, hhigh⟩ := splitPoint_eq_pow hn
  have hlog : Nat.log2 (n - 1) = j := (Nat.log2_eq_iff (by omega)).2 ⟨by omega, by omega⟩
  rw [hsplit, powerBelow, hlog]

/-- The two parts of a row of at most `2 ^ (j + 1)` elements have at most `2 ^ j` each. -/
private theorem powerBelow_le {j : Nat} (hn : 2 ≤ n) (hle : n ≤ 2 ^ (j + 1)) :
    powerBelow n ≤ 2 ^ j ∧ n - powerBelow n ≤ 2 ^ j := by
  have hhalf : n - 1 < 2 ^ (Nat.log2 (n - 1) + 1) := Nat.lt_log2_self
  have hlog : Nat.log2 (n - 1) < j + 1 := (Nat.log2_lt (by omega)).2 (by omega)
  have hpow : powerBelow n ≤ 2 ^ j := Nat.pow_le_pow_right (by decide) (by omega)
  rw [Nat.pow_succ, ← powerBelow] at hhalf
  exact ⟨hpow, by omega⟩

end Power

/-! ### The shape of the tree -/

/-- The number of siblings on the way from the leaf at `index` of `count` leaves to the root. -/
def pathLength (index count : Nat) : Nat :=
  if count < 2 then 0
  else if index < powerBelow count then 1 + pathLength index (powerBelow count)
  else 1 + pathLength (index - powerBelow count) (count - powerBelow count)
termination_by count
decreasing_by
  · exact powerBelow_lt (by omega)
  · have := powerBelow_pos count
    omega

variable {hash : Bytes → Digest} {leaf : Digest} {index count : Nat} {path : List Digest}

@[simp]
theorem pathLength_one : pathLength index 1 = 0 := by
  rw [pathLength, if_pos (by decide)]

/-- In the left part the path is one digest longer than in that part alone. -/
private theorem pathLength_of_lt (hcount : 2 ≤ count) (hi : index < powerBelow count) :
    pathLength index count = 1 + pathLength index (powerBelow count) := by
  rw [pathLength, if_neg (by omega), if_pos hi]

/-- In the right part the path is one digest longer than in that part alone. -/
private theorem pathLength_of_le (hcount : 2 ≤ count) (hi : powerBelow count ≤ index) :
    pathLength index count =
      1 + pathLength (index - powerBelow count) (count - powerBelow count) := by
  rw [pathLength, if_neg (by omega), if_neg (by omega)]

/-- In a tree of at most `2 ^ j` leaves no path has more than `j` siblings. -/
theorem pathLength_le {j : Nat} (hcount : count ≤ 2 ^ j) : pathLength index count ≤ j := by
  induction j generalizing index count with
  | zero =>
    have hone : count < 2 := by omega
    rw [pathLength, if_pos hone]
  | succ j ih =>
    rcases Nat.lt_or_ge count 2 with hone | htwo
    · rw [pathLength, if_pos hone]
      exact Nat.zero_le _
    obtain ⟨hleft, hright⟩ := powerBelow_le htwo hcount
    rcases Nat.lt_or_ge index (powerBelow count) with hlt | hge
    · have hpart : pathLength index (powerBelow count) ≤ j := ih hleft
      rw [pathLength_of_lt htwo hlt]
      omega
    · have hpart : pathLength (index - powerBelow count) (count - powerBelow count) ≤ j :=
        ih hright
      rw [pathLength_of_le htwo hge]
      omega

/-! ### The verifier -/

/-- The verifier has as many sides as the tree has siblings. -/
theorem length_sides (hi : index < count) :
    (sides index (count - 1)).length = pathLength index count := by
  -- down the tree, although the sides are made from the leaf up
  induction index, count using pathLength.induct with
  | case1 index count hone =>
    obtain rfl : count = 1 := by omega
    rw [sides_zero, pathLength_one]
    rfl
  | case2 index count hcount hlt ih =>
    have htwo : 2 ≤ count := Nat.not_lt.1 hcount
    have hsplit := splitPoint_eq_powerBelow htwo
    have hsides := sides_of_lt htwo (hsplit ▸ hlt)
    rw [hsides, List.length_append, hsplit, ih hlt, pathLength_of_lt htwo hlt]
    exact Nat.add_comm _ 1
  | case3 index count hcount hnot ih =>
    have htwo : 2 ≤ count := Nat.not_lt.1 hcount
    have hge : powerBelow count ≤ index := Nat.not_lt.1 hnot
    have hsplit := splitPoint_eq_powerBelow htwo
    have hsides := sides_of_le (hsplit ▸ hge) hi
    have hpart : index - powerBelow count < count - powerBelow count := by omega
    rw [hsides, List.length_append, hsplit, ih hpart, pathLength_of_le htwo hge]
    exact Nat.add_comm _ 1

/-- Within the tree the length of a path decides: it is too short, too long, or folds to a root. -/
theorem foldPath_of_lt (hi : index < count) :
    foldPath hash leaf index count path =
      if path.length < pathLength index count then .error .tooShort
      else if pathLength index count < path.length then .error .tooLong
      else .ok (ascend hash leaf (steps index count path)) := by
  rw [foldPath, if_neg (by omega), climb_eq, length_sides hi]
  rfl

/-- **A path folds at exactly one length.** A place that is out of range is refused; for a place in
range, paths fold that have as many siblings as the tree has above that place, longer ones are too
long and shorter ones too short, whatever the leaf and the siblings are. -/
theorem folds_by_length (hash : Bytes → Digest) (leaf : Digest) (index count : Nat)
    (path : List Digest) :
    (foldPath hash leaf index count path = .error (.outOfRange index count) ↔ count ≤ index) ∧
    ((∃ root, foldPath hash leaf index count path = .ok root) ↔
      index < count ∧ path.length = pathLength index count) ∧
    (foldPath hash leaf index count path = .error .tooLong ↔
      index < count ∧ pathLength index count < path.length) ∧
    (foldPath hash leaf index count path = .error .tooShort ↔
      index < count ∧ path.length < pathLength index count) := by
  rcases Nat.lt_or_ge index count with hi | hout
  · rw [foldPath_of_lt hi]
    rcases Nat.lt_trichotomy path.length (pathLength index count) with hshort | hfits | hlong
    · rw [if_pos hshort]
      exact ⟨iff_of_false (by simp) (by omega), iff_of_false (by simp) (by omega),
        iff_of_false (by simp) (by omega), iff_of_true rfl ⟨hi, hshort⟩⟩
    · rw [if_neg (by omega), if_neg (by omega)]
      exact ⟨iff_of_false (by simp) (by omega), iff_of_true ⟨_, rfl⟩ ⟨hi, hfits⟩,
        iff_of_false (by simp) (by omega), iff_of_false (by simp) (by omega)⟩
    · rw [if_neg (by omega), if_pos hlong]
      exact ⟨iff_of_false (by simp) (by omega), iff_of_false (by simp) (by omega),
        iff_of_true rfl ⟨hi, hlong⟩, iff_of_false (by simp) (by omega)⟩
  · rw [foldPath, if_pos hout]
    exact ⟨iff_of_true rfl hout, iff_of_false (by simp) (by omega),
      iff_of_false (by simp) (by omega), iff_of_false (by simp) (by omega)⟩

end Merkle

open Merkle

/-! ### Trees and proofs -/

variable {hash : Bytes → Digest}

/-- The paths that a tree gives out have the length that the verifier asks for. -/
theorem CommitmentTree.length_auditPath {t : CommitmentTree} {index : Nat} {path : List Digest}
    (h : t.auditPath? hash index = some path) : path.length = pathLength index t.size := by
  rw [auditPath?] at h
  split_ifs at h with hi
  rw [← length_hashes hash] at hi ⊢
  rw [← Option.some.inj h, length_pathOf hash hi, length_sides hi]

/-- A proof that folds has at most as many siblings as a word has bits. -/
theorem MembershipProof.length_siblings_le {p : MembershipProof} {root : Digest}
    (h : p.root hash = .ok root) : p.siblings.length ≤ 64 := by
  obtain ⟨hrange, hlength, -⟩ := foldPath_eq_ok_iff.1 h
  have hword : p.leafCount.toNat ≤ 2 ^ 64 := Nat.le_of_lt p.leafCount.toNat_lt
  rw [hlength, length_sides hrange]
  exact pathLength_le hword

end Attestation
