import Attestation.Merkle.Tree
import Mathlib.Algebra.GroupWithZero.Nat
import Mathlib.Tactic.SplitIfs

/-!
# Splitting rows

A row of at least two hashes is split at a power of two (`splitPoint_eq_pow`), its root and its
audit paths are made of those of the two parts, and what holds of rows of at most one element and
passes from the two parts to the whole holds of all rows (`splitInduction`).
-/

namespace Attestation.Merkle

/-! ### The split point -/

/-- Doubling a power of two as long as it stays below a number gives the greatest power below it. -/
private theorem doubleBelow_eq_pow {n k : Nat} (hk : k < n) (hpow : ∃ i, k = 2 ^ i) :
    ∃ j, doubleBelow n k = 2 ^ j ∧ 2 ^ j < n ∧ n ≤ 2 ^ (j + 1) := by
  fun_induction doubleBelow n k with
  | case1 k h ih =>
    obtain ⟨i, rfl⟩ := hpow
    exact ih h.2 ⟨i + 1, by rw [Nat.pow_succ, Nat.mul_comm]⟩
  | case2 k h =>
    obtain ⟨i, rfl⟩ := hpow
    have hpos : 0 < 2 ^ i := Nat.two_pow_pos i
    refine ⟨i, rfl, hk, ?_⟩
    rw [Nat.pow_succ]
    omega

/-- A row is split at the power of two that is below its length but not below its half. -/
theorem splitPoint_eq_pow {n : Nat} (hn : 2 ≤ n) :
    ∃ j, splitPoint n = 2 ^ j ∧ 2 ^ j < n ∧ n ≤ 2 ^ (j + 1) :=
  doubleBelow_eq_pow hn ⟨0, rfl⟩

/-! ### Rows by their parts -/

section Rows

variable {α : Type} {row : List α}

theorem length_take_splitPoint (hrow : 2 ≤ row.length) :
    (row.take (splitPoint row.length)).length = splitPoint row.length := by
  have hlt := splitPoint_lt hrow
  rw [List.length_take]
  omega

theorem lt_length_take {i : Nat} (hrow : 2 ≤ row.length) (hi : i < splitPoint row.length) :
    i < (row.take (splitPoint row.length)).length := by
  rwa [length_take_splitPoint hrow]

theorem lt_length_drop {i : Nat} (hle : splitPoint row.length ≤ i) (hi : i < row.length) :
    i - splitPoint row.length < (row.drop (splitPoint row.length)).length := by
  rw [List.length_drop]
  omega

theorem getElem?_drop_splitPoint {i : Nat} (hi : splitPoint row.length ≤ i) :
    (row.drop (splitPoint row.length))[i - splitPoint row.length]? = row[i]? := by
  rw [List.getElem?_drop, Nat.add_sub_cancel' hi]

/-- Induction on the tree over a row. -/
@[elab_as_elim]
theorem splitInduction {motive : List α → Prop} (nil : motive [])
    (singleton : ∀ a, motive [a])
    (split : ∀ row, 2 ≤ row.length → motive (row.take (splitPoint row.length)) →
      motive (row.drop (splitPoint row.length)) → motive row)
    (row : List α) : motive row := by
  induction hn : row.length using Nat.strongRecOn generalizing row with
  | ind n ih =>
    subst hn
    match row with
    | [] => exact nil
    | [a] => exact singleton a
    | a :: b :: rest =>
      have hrow : 2 ≤ (a :: b :: rest).length := by simp
      have hlt := splitPoint_lt hrow
      have hpos := splitPoint_pos (a :: b :: rest).length
      refine split _ hrow (ih _ ?_ _ rfl) (ih _ ?_ _ rfl)
      · rw [length_take_splitPoint hrow]
        exact hlt
      · rw [List.length_drop]
        omega

end Rows

/-! ### Roots and paths by their parts -/

section Hash

variable {hash : Bytes → Digest} {row : List Digest} {i : Nat}

/-- The root of two leaves or more is the node over the roots of the two parts. -/
theorem rootOf_split (hrow : 2 ≤ row.length) :
    rootOf hash row = nodeHash hash (rootOf hash (row.take (splitPoint row.length)))
      (rootOf hash (row.drop (splitPoint row.length))) := by
  match row, hrow with
  | a :: b :: rest, _ => rw [rootOf]; rfl

/-- The path of a hash in the left part goes on with the root of the right part. -/
theorem pathOf_of_lt (hrow : 2 ≤ row.length) (hi : i < splitPoint row.length) :
    pathOf hash i row = pathOf hash i (row.take (splitPoint row.length)) ++
      [rootOf hash (row.drop (splitPoint row.length))] := by
  match row, hrow with
  | a :: b :: rest, _ =>
    rw [pathOf]
    exact if_pos hi

/-- The path of a hash in the right part goes on with the root of the left part. -/
theorem pathOf_of_le (hrow : 2 ≤ row.length) (hi : splitPoint row.length ≤ i) :
    pathOf hash i row =
      pathOf hash (i - splitPoint row.length) (row.drop (splitPoint row.length)) ++
        [rootOf hash (row.take (splitPoint row.length))] := by
  match row, hrow with
  | a :: b :: rest, _ =>
    rw [pathOf]
    exact if_neg (Nat.not_lt.2 hi)

end Hash

end Attestation.Merkle
