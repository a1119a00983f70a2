/-!
# Search by halving

A list whose elements come in the order of their keys is searched by looking at the element in its
middle and going on with one of the two halves beside it. What is found is the element with the key,
if there is one (`bisect?_eq_some_iff`).
-/

namespace Attestation

/-- Searches a list by halving it. `place` tells whether an element stands too low, too high or in
the right place. -/
def bisect? {α : Type} (place : α → Ordering) (l : List α) : Option α :=
  match _h : l.drop (l.length / 2) with
  | [] => none
  | middle :: above =>
    match place middle with
    | .lt => bisect? place above
    | .eq => some middle
    | .gt => bisect? place (l.take (l.length / 2))
termination_by l.length
decreasing_by
  all_goals
    have hlength := congrArg List.length _h
    simp only [List.length_drop, List.length_cons, List.length_take] at hlength ⊢
    omega

theorem take_append_middle {α : Type} {l above : List α} {middle : α} {n : Nat}
    (h : l.drop n = middle :: above) : l = l.take n ++ middle :: above := by
  rw [← h, List.take_append_drop]

variable {α κ : Type} [Ord κ] [Std.TransOrd κ] [Std.LawfulEqOrd κ] {key : α → κ} {l : List α}

/-- The key of an element tells on which side of the middle it stands. -/
theorem mem_iff_beside {below above : List α} {middle a : α} (h : l = below ++ middle :: above)
    (sorted : l.Pairwise fun a b => compare (key a) (key b) = .lt) :
    a ∈ l ↔
      match compare (key middle) (key a) with
      | .lt => a ∈ above
      | .eq => a = middle
      | .gt => a ∈ below := by
  subst h
  obtain ⟨-, habove, hbelow⟩ := List.pairwise_append.1 sorted
  constructor
  · intro ha
    rcases List.mem_append.1 ha with ha | ha
    · rw [Std.OrientedCmp.gt_of_lt (hbelow a ha middle List.mem_cons_self)]
      exact ha
    · rcases List.mem_cons.1 ha with rfl | ha
      · rw [Std.ReflOrd.compare_self]
      · rw [(List.pairwise_cons.1 habove).1 a ha]
        exact ha
  · intro h
    split at h
    · exact List.mem_append_right _ (List.mem_cons_of_mem _ h)
    · exact h ▸ List.mem_append_right _ List.mem_cons_self
    · exact List.mem_append_left _ h

/-- In a list with increasing keys an element is found by its key. -/
theorem bisect?_eq_some_iff {k : κ} {a : α}
    (sorted : l.Pairwise fun a b => compare (key a) (key b) = .lt) :
    bisect? (fun a => compare (key a) k) l = some a ↔ a ∈ l ∧ key a = k := by
  fun_induction bisect? (fun a => compare (key a) k) l with
  | case1 l h =>
    have hlength := congrArg List.length h
    rw [List.length_drop, List.length_nil] at hlength
    obtain rfl : l = [] := List.eq_nil_of_length_eq_zero (by omega)
    simp
  | case2 l middle above h hlt ih =>
    have hl := take_append_middle h
    have habove : (middle :: above).Sublist l := h ▸ List.drop_sublist _ l
    refine (ih (sorted.sublist (.trans (List.sublist_cons_self ..) habove))).trans
      (and_congr_left fun hk => ?_)
    rw [mem_iff_beside hl sorted, hk, hlt]
  | case3 l middle above h heq =>
    obtain rfl := Std.LawfulEqOrd.eq_of_compare heq
    have hself (hk : key a = key middle) : a ∈ l ↔ a = middle := by
      rw [mem_iff_beside (take_append_middle h) sorted, hk, heq]
    constructor
    · intro ha
      obtain rfl := Option.some.inj ha
      exact ⟨(hself rfl).2 rfl, rfl⟩
    · rintro ⟨ha, hk⟩
      rw [(hself hk).1 ha]
  | case4 l middle above h hgt ih =>
    refine (ih (sorted.sublist (List.take_sublist ..))).trans (and_congr_left fun hk => ?_)
    rw [mem_iff_beside (take_append_middle h) sorted, hk, hgt]

end Attestation
