import Attestation.Client.QuorumPolicy
import Mathlib.Algebra.GroupWithZero.Nat
import Mathlib.Algebra.Order.BigOperators.Group.List
import Mathlib.Algebra.Order.Group.Nat
import Mathlib.Data.List.Perm.Subperm
import Mathlib.Order.Bounds.Basic

/-!
# Exact weights

Weights are added up in words and stop at the greatest word. The exact weight of a group is the sum
of its votes in the natural numbers. A saturated sum is the exact one cut off at the greatest word
(`toNat_weightOfAll`), which no threshold exceeds, so a group meets a policy exactly if its exact
weight reaches the threshold (`isMet_weightOfAll`).
-/

namespace Attestation

/-! ### Saturating words -/

namespace Word

private theorem toNat_le_greatest (a : UInt64) : a.toNat ≤ 2 ^ 64 - 1 :=
  Nat.le_sub_one_of_lt a.toNat_lt

/-- Addition is exact up to the greatest word. -/
theorem toNat_add (a b : UInt64) : (add a b).toNat = min (a.toNat + b.toNat) (2 ^ 64 - 1) := by
  rw [add]
  split
  · rename_i h
    have hsize : UInt64.size = 2 ^ 64 := rfl
    rw [UInt64.toNat_add, Nat.mod_eq_of_lt h]
    omega
  · rename_i h
    have hsize : UInt64.size = 2 ^ 64 := rfl
    rw [Nat.min_eq_right (by omega)]
    rfl

/-- A sum is exact up to the greatest word, at which it stays. -/
private theorem toNat_foldl_add (ws : List UInt64) (a : UInt64) :
    (ws.foldl add a).toNat = min (a.toNat + (ws.map UInt64.toNat).sum) (2 ^ 64 - 1) := by
  induction ws generalizing a with
  | nil =>
    have := toNat_le_greatest a
    simp only [List.foldl_nil, List.map_nil, List.sum_nil]
    omega
  | cons w ws ih =>
    rw [List.foldl_cons, ih, toNat_add, List.map_cons, List.sum_cons]
    omega

/-- A saturated sum is the exact one, cut off at the greatest word. -/
theorem toNat_sum (ws : List UInt64) :
    (sum ws).toNat = min (ws.map UInt64.toNat).sum (2 ^ 64 - 1) := by
  rw [sum, toNat_foldl_add, UInt64.toNat_zero, Nat.zero_add]

private theorem minimum_eq_min? (ws : List UInt64) : minimum ws = ws.min?.getD 0 := by
  cases ws <;> rfl

/-- The minimum of a list that is not empty is its least element. -/
theorem isLeast_minimum {ws : List UInt64} (h : ws ≠ []) : IsLeast {w | w ∈ ws} (minimum ws) := by
  obtain ⟨w, hw⟩ := Option.isSome_iff_exists.1 (List.isSome_min?_of_ne_nil h)
  rw [minimum_eq_min?, hw, Option.getD_some]
  obtain ⟨hmem, hle⟩ := List.min?_eq_some_iff.1 hw
  exact ⟨hmem, fun b hb => hle b hb⟩

private theorem max_def (a b : UInt64) : max a b = if a ≤ b then b else a := rfl

instance lawfulOrderMax_uInt64 : Std.LawfulOrderMax UInt64 where
  max_eq_or a b := by
    rw [max_def]
    split
    · exact .inr rfl
    · exact .inl rfl
  max_le_iff a b c := by
    rw [max_def]
    split
    · rename_i hab
      exact ⟨fun hbc => ⟨UInt64.le_trans hab hbc, hbc⟩, fun h => h.2⟩
    · rename_i hab
      have hba : b ≤ a := UInt64.le_of_lt (UInt64.not_le.1 hab)
      exact ⟨fun hac => ⟨hac, UInt64.le_trans hba hac⟩, fun h => h.1⟩

private theorem maximum_eq_max? (ws : List UInt64) : maximum ws = ws.max?.getD 0 := by
  cases ws with
  | nil => rfl
  | cons w ws =>
    have hzero : max 0 w = w := if_pos (UInt64.le_iff_toNat_le.2 (Nat.zero_le _))
    rw [maximum, List.foldl_cons, hzero]
    rfl

/-- The maximum of a list that is not empty is its greatest element. -/
theorem isGreatest_maximum {ws : List UInt64} (h : ws ≠ []) :
    IsGreatest {w | w ∈ ws} (maximum ws) := by
  obtain ⟨w, hw⟩ := Option.isSome_iff_exists.1 (List.isSome_max?_of_ne_nil h)
  rw [maximum_eq_max?, hw, Option.getD_some]
  obtain ⟨hmem, hle⟩ := List.max?_eq_some_iff.1 hw
  exact ⟨hmem, fun b hb => hle b hb⟩

end Word

/-! ### Weights of groups -/

namespace QuorumPolicy

/-- The weight of a group of attestors in the natural numbers. -/
def exactWeight (p : QuorumPolicy) (group : List Attestor) : Nat :=
  (group.map fun a => (p.weightOf a).toNat).sum

/-- The weight of a group is the exact one, cut off at the greatest word. -/
theorem toNat_weightOfAll (p : QuorumPolicy) (group : List Attestor) :
    (p.weightOfAll group).toNat = min (p.exactWeight group) (2 ^ 64 - 1) := by
  rw [weightOfAll, Word.toNat_sum, List.map_map]
  rfl

/-- Saturation does not change what meets a policy. -/
theorem isMet_weightOfAll (p : QuorumPolicy) (group : List Attestor) :
    p.isMet (p.weightOfAll group) ↔ p.threshold.toNat ≤ p.exactWeight group := by
  have hle := Word.toNat_le_greatest p.threshold
  rw [isMet, decide_eq_true_iff, UInt64.le_iff_toNat_le, toNat_weightOfAll]
  omega

/-- A group inside another weighs at most as much. -/
theorem exactWeight_mono (p : QuorumPolicy) {group other : List Attestor}
    (h : group.Sublist other) : p.exactWeight group ≤ p.exactWeight other :=
  (h.map _).sum_le_sum fun _ _ => Nat.zero_le _

/-- The order in which the other group is listed does not matter. -/
theorem exactWeight_le_of_subset (p : QuorumPolicy) {group other : List Attestor}
    (hnodup : group.Nodup) (h : group ⊆ other) : p.exactWeight group ≤ p.exactWeight other := by
  obtain ⟨listed, hperm, hsublist⟩ := hnodup.subperm h
  calc p.exactWeight group = p.exactWeight listed := (hperm.map _).sum_eq.symm
    _ ≤ p.exactWeight other := p.exactWeight_mono hsublist

/-- Two parts of a group overlap by as much as their weights together exceed that of the group. -/
theorem exactWeight_filter_add_le (p : QuorumPolicy) (group : List Attestor)
    (f g : Attestor → Prop) [DecidablePred f] [DecidablePred g] :
    p.exactWeight (group.filter f) + p.exactWeight (group.filter g) ≤
      p.exactWeight (group.filter fun a => f a ∧ g a) + p.exactWeight group := by
  have hcons : ∀ (a : Attestor) (rest : List Attestor),
      p.exactWeight (a :: rest) = (p.weightOf a).toNat + p.exactWeight rest :=
    fun _ _ => List.sum_cons
  induction group with
  | nil => exact Nat.le_refl 0
  | cons a group ih =>
    by_cases hf : f a <;> by_cases hg : g a <;>
      simp only [List.filter_cons, hf, hg, and_self, and_true, and_false, decide_true,
        decide_false, Bool.false_eq_true, if_true, if_false, hcons] <;>
      omega

end QuorumPolicy

end Attestation
