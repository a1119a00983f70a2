import Attestation.Merkle.AuditPath
import Attestation.Proofs.Merkle.Splitting

/-!
# Sides of the siblings

Index and length of a row fix on which side each sibling of an audit path stands (`sides`); a path
adds the siblings themselves (`steps`). The verifier takes exactly the paths with one sibling per
side and folds them in one after the other (`climb_eq`, `foldPath_eq_ok_iff`). The sides go the way
of the tree: up to the last one they are those of the part of the row that holds the index, and the
last one is that of the other part (`sides_of_lt`, `sides_of_le`).
-/

namespace Attestation.Merkle

/-! ### Sides and folding -/

/-- Where a sibling stands. -/
inductive Side where
  | left
  | right
deriving DecidableEq

/-- The sides of the siblings above the node at `index` of a row whose last node is at `last`,
deepest first. The last node of a row of odd length has no sibling there. -/
def sides (index last : Nat) : List Side :=
  if last = 0 then []
  else if index % 2 = 1 then .left :: sides (index / 2) (last / 2)
  else if index = last then sides (index / 2) (last / 2)
  else .right :: sides (index / 2) (last / 2)
termination_by last

/-- The siblings of a path from the leaf at `index` of `count` leaves, each with its side. -/
def steps (index count : Nat) (path : List Digest) : List (Side × Digest) :=
  (sides index (count - 1)).zip path

/-- The message that is hashed to fold a sibling into a node. -/
def joinMessage (node : Digest) : Side × Digest → Bytes
  | (.left, sibling) => nodeMessage sibling node
  | (.right, sibling) => nodeMessage node sibling

/-- Folds siblings into a node, deepest first. -/
def ascend (hash : Bytes → Digest) (node : Digest) (steps : List (Side × Digest)) : Digest :=
  steps.foldl (fun node step => hash (joinMessage node step)) node

variable {hash : Bytes → Digest} {index last n : Nat} {node : Digest}

@[simp]
private theorem ascend_nil : ascend hash node [] = node := rfl

/-- A last step hashes what the others came to with its digest. -/
@[simp]
theorem ascend_append_singleton {steps : List (Side × Digest)} {step : Side × Digest} :
    ascend hash node (steps ++ [step]) = hash (joinMessage (ascend hash node steps) step) := by
  simp [ascend]

/-! ### One level -/

@[simp]
theorem sides_zero : sides index 0 = [] := by
  rw [sides, if_pos rfl]

/-- An odd index has its sibling on the left. -/
private theorem sides_of_odd (hlast : last ≠ 0) (hodd : index % 2 = 1) :
    sides index last = .left :: sides (index / 2) (last / 2) := by
  rw [sides, if_neg hlast, if_pos hodd]

/-- An even index that is not the last has its sibling on the right. -/
private theorem sides_of_even (hne : index ≠ last) (hlast : last ≠ 0) (heven : index % 2 ≠ 1) :
    sides index last = .right :: sides (index / 2) (last / 2) := by
  rw [sides, if_neg hlast, if_neg heven, if_neg hne]

/-- The last node is carried up if it has no sibling. -/
private theorem sides_carry (heven : last % 2 ≠ 1) :
    sides last last = sides (last / 2) (last / 2) := by
  by_cases hlast : last = 0
  · simp [hlast]
  · rw [sides, if_neg hlast, if_neg heven, if_pos rfl]

/-- The last node has its next sibling on the left, past the levels that are skipped. -/
private theorem sides_skipLevels (hlast : last ≠ 0) :
    sides last last =
      .left :: sides ((skipLevels last last).1 / 2) ((skipLevels last last).2 / 2) := by
  induction last using Nat.strongRecOn with
  | ind last ih =>
    rw [skipLevels]
    split_ifs with h
    · rw [sides_carry (by omega)]
      exact ih (last / 2) (by omega) (by omega)
    · exact sides_of_odd hlast (by omega)

private theorem skipLevels_of_odd (hodd : index % 2 = 1) :
    skipLevels index last = (index, last) := by
  rw [skipLevels, if_neg (by omega)]

/-! ### The verifier -/

/-- Below the root the verifier folds the next sibling in on the first side and goes on with the
other sides. -/
private theorem exists_step (index : Nat) (hlast : last ≠ 0) : ∃ side index' last',
    sides index last = side :: sides index' last' ∧
    ∀ (hash : Bytes → Digest) (sibling : Digest) (rest : List Digest) (node : Digest),
      climb hash (sibling :: rest) index last node =
        climb hash rest index' last' (hash (joinMessage node (side, sibling))) := by
  by_cases hodd : index % 2 = 1
  · refine ⟨.left, _, _, sides_of_odd hlast hodd, fun hash sibling rest node => ?_⟩
    rw [climb, if_neg hlast, if_pos (.inl hodd), skipLevels_of_odd hodd]
    rfl
  by_cases heq : index = last
  · -- the last node at an even place: its sibling comes after the rows that are skipped
    subst heq
    refine ⟨.left, _, _, sides_skipLevels hlast, fun hash sibling rest node => ?_⟩
    rw [climb, if_neg hlast, if_pos (.inr rfl)]
    rfl
  · refine ⟨.right, _, _, sides_of_even heq hlast hodd, fun hash sibling rest node => ?_⟩
    rw [climb, if_neg hlast, if_neg (not_or.2 ⟨hodd, heq⟩)]
    rfl

/-- The verifier folds exactly the paths that have one sibling per side. -/
theorem climb_eq (path : List Digest) :
    climb hash path index last node =
      if path.length < (sides index last).length then .error .tooShort
      else if (sides index last).length < path.length then .error .tooLong
      else .ok (ascend hash node ((sides index last).zip path)) := by
  induction path generalizing index last node with
  | nil =>
    by_cases hlast : last = 0
    · simp [climb, hlast]
    · obtain ⟨side, index', last', hsides, -⟩ := exists_step index hlast
      simp [climb, hlast, hsides]
  | cons sibling rest ih =>
    by_cases hlast : last = 0
    · simp [climb, hlast]
    · obtain ⟨side, index', last', hsides, hclimb⟩ := exists_step index hlast
      rw [hclimb, ih, hsides]
      simp [ascend]

/-- Climbing succeeds exactly if there is one digest for each side, and it joins them. -/
theorem climb_eq_ok_iff {path : List Digest} {root : Digest} :
    climb hash path index last node = .ok root ↔
      path.length = (sides index last).length ∧
        ascend hash node ((sides index last).zip path) = root := by
  rw [climb_eq]
  split_ifs with hshort hlong
  · exact iff_of_false (fun h => nomatch h) (fun h => absurd h.1 (by omega))
  · exact iff_of_false (fun h => nomatch h) (fun h => absurd h.1 (by omega))
  · have heq : path.length = (sides index last).length := by omega
    simp [heq]

/-- The verifier accepts a place in range and a path that has one sibling per side. -/
theorem foldPath_eq_ok_iff {leaf root : Digest} {count : Nat} {path : List Digest} :
    foldPath hash leaf index count path = .ok root ↔
      index < count ∧ path.length = (sides index (count - 1)).length ∧
        ascend hash leaf (steps index count path) = root := by
  rw [foldPath, steps, ← climb_eq_ok_iff]
  split_ifs with hrange
  · exact iff_of_false (fun h => nomatch h) (fun h => absurd h.1 (by omega))
  · exact (and_iff_right (by omega)).symm

/-! ### Sides and the split point -/

/-- Sides that part at `k` one level up part at `2 * k`. -/
private theorem sides_double {k : Nat} (hk : 0 < k) (hle : index ≤ last) (hlow : 2 * k ≤ last)
    (hhalf : sides (index / 2) (last / 2) =
      if index / 2 < k then sides (index / 2) (k - 1) ++ [.right]
      else sides (index / 2 - k) (last / 2 - k) ++ [.left]) :
    sides index last =
      if index < 2 * k then sides index (2 * k - 1) ++ [.right]
      else sides (index - 2 * k) (last - 2 * k) ++ [.left] := by
  have hlast : last ≠ 0 := by omega
  by_cases hlt : index < 2 * k
  · have hend : (2 * k - 1) / 2 = k - 1 := by omega
    rw [if_pos (by omega)] at hhalf
    rw [if_pos hlt]
    by_cases hodd : index % 2 = 1
    · rw [sides_of_odd hlast hodd, sides_of_odd (by omega) hodd, hhalf, hend, List.cons_append]
    · rw [sides_of_even (by omega) hlast hodd, sides_of_even (by omega) (by omega) hodd, hhalf,
        hend, List.cons_append]
  · have hindex : (index - 2 * k) / 2 = index / 2 - k := by omega
    have hend : (last - 2 * k) / 2 = last / 2 - k := by omega
    rw [if_neg (by omega), ← hindex, ← hend] at hhalf
    rw [if_neg hlt]
    by_cases hodd : index % 2 = 1
    · have hpart := @sides_of_odd (index - 2 * k) (last - 2 * k) (by omega) (by omega)
      rw [sides_of_odd hlast hodd, hhalf, hpart, List.cons_append]
    by_cases heq : index = last
    · -- the border: both rows carry their last node up
      subst heq
      rw [sides_carry hodd, hhalf, ← sides_carry (by omega)]
    · have hpart := @sides_of_even (index - 2 * k) (last - 2 * k) (by omega) (by omega) (by omega)
      rw [sides_of_even heq hlast hodd, hhalf, hpart, List.cons_append]

/-- In a row of more than `2 ^ j` and at most `2 ^ (j + 1)` nodes, the last sibling is on the
right for the first `2 ^ j` nodes and on the left for the others; the siblings before it are those
within these parts. -/
theorem sides_pow {j : Nat} (hle : index ≤ last) (hlow : 2 ^ j ≤ last)
    (hhigh : last < 2 ^ (j + 1)) :
    sides index last =
      if index < 2 ^ j then sides index (2 ^ j - 1) ++ [.right]
      else sides (index - 2 ^ j) (last - 2 ^ j) ++ [.left] := by
  induction j generalizing index last with
  | zero =>
    obtain rfl : last = 1 := by omega
    obtain rfl | rfl : index = 0 ∨ index = 1 := by omega
    · simp [sides_of_even]
    · simp [sides_of_odd]
  | succ j ih =>
    rw [Nat.pow_succ, Nat.mul_comm] at hlow hhigh ⊢
    rw [Nat.pow_succ] at hhigh
    exact sides_double (Nat.two_pow_pos j) hle hlow (ih (by omega) (by omega) (by omega))

/-- In the left part the way up ends with a digest from the right. -/
theorem sides_of_lt (hn : 2 ≤ n) (hi : index < splitPoint n) :
    sides index (n - 1) = sides index (splitPoint n - 1) ++ [.right] := by
  obtain ⟨j, hsplit, hlow, hhigh⟩ := splitPoint_eq_pow hn
  have hpow := @sides_pow index (n - 1) j
  rw [← hsplit] at hpow hlow
  rw [hpow (by omega) (by omega) (by omega), if_pos hi]

/-- In the right part the way up ends with a digest from the left. -/
theorem sides_of_le (hi : splitPoint n ≤ index) (hlt : index < n) :
    sides index (n - 1) = sides (index - splitPoint n) (n - splitPoint n - 1) ++ [.left] := by
  have hpos := splitPoint_pos n
  obtain ⟨j, hsplit, hlow, hhigh⟩ := splitPoint_eq_pow (n := n) (by omega)
  have hpow := @sides_pow index (n - 1) j
  rw [← hsplit] at hpow hlow
  rw [hpow (by omega) (by omega) (by omega), if_neg (by omega), Nat.sub_right_comm]

/-! ### Sides and the parts of a row -/

section Rows

variable {α : Type} {row : List α} {path : List Digest} {sibling : Digest}

/-- The path from the left part, with a sibling on the right. -/
theorem length_sides_of_lt (hrow : 2 ≤ row.length) (hi : index < splitPoint row.length) :
    (sides index (row.length - 1)).length =
      (sides index ((row.take (splitPoint row.length)).length - 1)).length + 1 := by
  rw [sides_of_lt hrow hi, length_take_splitPoint hrow, List.length_append]
  rfl

theorem length_sides_of_le (hle : splitPoint row.length ≤ index) (hi : index < row.length) :
    (sides index (row.length - 1)).length =
      (sides (index - splitPoint row.length)
        ((row.drop (splitPoint row.length)).length - 1)).length + 1 := by
  rw [sides_of_le hle hi, List.length_drop, List.length_append]
  rfl

/-- In the left part the last digest of a path joins from the right. -/
theorem steps_of_lt (hrow : 2 ≤ row.length) (hi : index < splitPoint row.length)
    (hpath : path.length =
      (sides index ((row.take (splitPoint row.length)).length - 1)).length) :
    steps index row.length (path ++ [sibling]) =
      steps index (row.take (splitPoint row.length)).length path ++ [(.right, sibling)] := by
  rw [length_take_splitPoint hrow] at hpath ⊢
  rw [steps, steps, sides_of_lt hrow hi, List.zip_append hpath.symm]
  rfl

theorem steps_of_le (hle : splitPoint row.length ≤ index) (hi : index < row.length)
    (hpath : path.length = (sides (index - splitPoint row.length)
      ((row.drop (splitPoint row.length)).length - 1)).length) :
    steps index row.length (path ++ [sibling]) =
      steps (index - splitPoint row.length) (row.drop (splitPoint row.length)).length path ++
        [(.left, sibling)] := by
  rw [List.length_drop] at hpath ⊢
  rw [steps, steps, sides_of_le hle hi, List.zip_append hpath.symm]
  rfl

end Rows

end Attestation.Merkle
