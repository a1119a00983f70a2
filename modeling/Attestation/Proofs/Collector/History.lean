import Attestation.Collector.History
import Attestation.Proofs.OrderedMap
import Mathlib.Data.List.DropRight
import Mathlib.Data.List.Induction

/-!
# Histories keep the newest claims

A history that was filled with claims of increasing heights is made of the newest of them
(`ClaimHistory.ofNewest`): one more claim on top comes in, and the oldest one goes if there is no
room left (`ClaimHistory.push_ofNewest`). Heights increase along such a history, so halving it finds
a claim by its height, and what is listed from a height on is the end of the history, in which a
height finds the same claim (`ClaimHistory.find?_since`).
-/

namespace Attestation

/-- The heights of the claims strictly increase. -/
abbrev Rising (claims : List Claim) : Prop :=
  claims.Pairwise (·.snapshot.height < ·.snapshot.height)

namespace ClaimHistory

/-- The history that keeps the newest of some claims. -/
def ofNewest (capacity : Nat) (claims : List Claim) : ClaimHistory :=
  ⟨capacity, claims.rtake capacity⟩

variable {claims : List Claim} {c : Claim} {capacity : Nat} {height : UInt64}

/-! ### Pushing -/

/-- A history starts without claims and with room for at least one. -/
theorem empty_eq_ofNewest (size : Nat) : empty size = ofNewest (max 1 size) [] := by
  rw [empty, ofNewest, List.rtake_nil]

/-- The newest claim is kept. -/
theorem getLast?_ofNewest (hpos : 0 < capacity) :
    (ofNewest capacity claims).claims.getLast? = claims.getLast? := by
  obtain ⟨n, rfl⟩ := Nat.exists_eq_add_of_lt hpos
  rw [Nat.zero_add]
  induction claims using List.reverseRecOn with
  | nil => simp [ofNewest]
  | append_singleton claims c => simp [ofNewest, List.rtake_concat_succ]

/-- Room for one more claim is made by leaving out the oldest one, if there is none. -/
private theorem kept_eq_rtake {n : Nat} :
    (if (claims.rtake (n + 1)).length = n + 1 then (claims.rtake (n + 1)).drop 1
      else claims.rtake (n + 1)) = claims.rtake n := by
  have hlength : (claims.rtake (n + 1)).length = claims.length - (claims.length - (n + 1)) :=
    List.length_drop
  rw [hlength]
  split_ifs with hfull
  · rw [List.rtake, List.drop_drop, List.rtake]
    congr 1
    omega
  · rw [List.rtake, List.rtake]
    congr 1
    omega

/-- A claim above the newest one comes in. -/
theorem push_ofNewest (hpos : 0 < capacity)
    (habove : ∀ newest ∈ claims.getLast?, newest.snapshot.height < c.snapshot.height) :
    (ofNewest capacity claims).push c = ofNewest capacity (claims ++ [c]) := by
  have hnew : (ofNewest capacity claims).claims.getLast?.any
      (c.snapshot.height ≤ ·.snapshot.height) = false := by
    rw [getLast?_ofNewest hpos]
    cases hlast : claims.getLast? with
    | none => rfl
    | some newest => simpa using habove newest hlast
  obtain ⟨n, rfl⟩ := Nat.exists_eq_add_of_lt hpos
  rw [push, hnew, Nat.zero_add, if_neg Bool.false_ne_true, ofNewest, ofNewest, mk.injEq,
    List.rtake_concat_succ]
  exact ⟨rfl, congrArg (· ++ [c]) kept_eq_rtake⟩

/-- A claim that is not above the newest one is ignored. -/
theorem push_of_le {history : ClaimHistory} {newest : Claim}
    (hnewest : newest ∈ history.claims.getLast?)
    (hle : c.snapshot.height ≤ newest.snapshot.height) : history.push c = history := by
  rw [push, Option.mem_def.1 hnewest, Option.any_some, if_pos (decide_eq_true hle)]

/-! ### Looking claims up -/

/-- The newest of rising claims rise. -/
theorem rising_ofNewest (h : Rising claims) : Rising (ofNewest capacity claims).claims :=
  h.sublist (List.drop_sublist ..)

variable {history : ClaimHistory}

/-- Halving rising claims finds the one at a height, and nothing where there is none. -/
theorem at?_eq_some_iff (h : Rising history.claims) :
    history.at? height = some c ↔ c ∈ history.claims ∧ c.snapshot.height = height :=
  bisect?_eq_some_iff (h.imp Std.compare_eq_lt.2)

theorem mem_since : c ∈ history.since height ↔ c ∈ history.claims ∧ height ≤ c.snapshot.height := by
  simp [since]

/-- The claims from a height on are the end of the history. -/
theorem since_suffix (h : Rising history.claims) (height : UInt64) :
    history.since height <:+ history.claims := by
  have hcut : history.since height = history.claims.dropWhile (·.snapshot.height < height) := by
    rw [since, dropWhile_eq_filter (h.imp fun hab hb => ?_)]
    · refine List.filter_congr fun c _ => ?_
      rw [← decide_not, decide_eq_decide, UInt64.not_lt]
    · exact decide_eq_true (UInt64.lt_trans hab (of_decide_eq_true hb))
  rw [hcut]
  exact List.dropWhile_suffix _

/-- Both ways to look a claim up agree: in the claims from a height on, a height finds what it finds
in the history, and nothing if it is lower. -/
theorem find?_since (h : Rising history.claims) (height height' : UInt64) :
    (history.since height).find? (·.snapshot.height = height') =
      if height ≤ height' then history.at? height' else none := by
  cases hfind : (history.since height).find? (·.snapshot.height = height') with
  | some c =>
    obtain ⟨hmem, hle⟩ := mem_since.1 (List.mem_of_find?_eq_some hfind)
    have hfound := List.find?_some hfind
    obtain rfl : c.snapshot.height = height' := of_decide_eq_true hfound
    rw [if_pos hle, (at?_eq_some_iff h).2 ⟨hmem, rfl⟩]
  | none =>
    split_ifs with hle
    · refine (Option.eq_none_iff_forall_ne_some.2 fun c hc => ?_).symm
      obtain ⟨hmem, rfl⟩ := (at?_eq_some_iff h).1 hc
      exact List.find?_eq_none.1 hfind c (mem_since.2 ⟨hmem, hle⟩) (decide_eq_true rfl)
    · rfl

theorem rising_since (h : Rising history.claims) (height : UInt64) :
    Rising (history.since height) :=
  h.filter _

end ClaimHistory

end Attestation
