import Attestation.Client.AttestorSet
import Attestation.Proofs.OrderedMap

/-!
# Registration of attestors

A listing of attestors becomes the set whose members it lists, in whatever order
(`AttestorSet.ofList_eq_ok_iff`). It does so exactly if it is `Registrable`; that no id and no
address is listed twice shows in a sorted listing between neighbours
(`AttestorSet.firstRepeat?_eq_none_iff`). Since ids increase along a set, halving it finds every
member by its id and nobody under any other id.
-/

namespace Attestation.AttestorSet

/-! ### Repeats in a sorted list -/

private theorem firstRepeat?_of_nodup {α : Type} [DecidableEq α] {l : List α} (h : l.Nodup) :
    firstRepeat? l = none := by
  induction l with
  | nil => rfl
  | cons a l ih =>
    cases l with
    | nil => rfl
    | cons b l =>
      obtain ⟨ha, hl⟩ := List.nodup_cons.1 h
      rw [firstRepeat?, if_neg (List.ne_of_not_mem_cons ha)]
      exact ih hl

/-- A sorted list has no repeat exactly if no two neighbours are equal. -/
theorem firstRepeat?_eq_none_iff {α : Type} [DecidableEq α] [Ord α] [Std.TransOrd α]
    [Std.LawfulEqOrd α] {l : List α} (sorted : l.Pairwise fun a b => (compare a b).isLE) :
    firstRepeat? l = none ↔ l.Nodup :=
  ⟨fun h => Increasing.nodup (pairwise_lt_of_firstRepeat? h sorted), firstRepeat?_of_nodup⟩

/-! ### Listings that form a set -/

/-- A listing of attestors that can be registered: there is one, all weights are positive, and no
id and no address is listed twice. -/
structure Registrable (listing : List Attestor) : Prop where
  nonempty : listing ≠ []
  weight_ne_zero : ∀ a ∈ listing, a.weight ≠ 0
  ids_nodup : (listing.map (·.id)).Nodup
  addresses_nodup : (listing.map (·.address)).Nodup

variable {set : AttestorSet} {listing relisting : List Attestor}

/-- Whether a listing can be registered does not depend on its order. -/
theorem Registrable.perm (h : Registrable listing) (hperm : listing.Perm relisting) :
    Registrable relisting where
  nonempty hnil := h.nonempty (List.perm_nil.1 (hnil ▸ hperm))
  weight_ne_zero a ha := h.weight_ne_zero a (hperm.mem_iff.2 ha)
  ids_nodup := (hperm.map _).nodup_iff.1 h.ids_nodup
  addresses_nodup := (hperm.map _).nodup_iff.1 h.addresses_nodup

private theorem registrable_members (set : AttestorSet) : Registrable set.members where
  nonempty := set.nonempty
  weight_ne_zero := set.weight_ne_zero
  ids_nodup := Increasing.nodup set.sorted
  addresses_nodup := set.addresses_nodup

/-- A listing without defects can be registered, and no other. -/
theorem defect?_eq_none_iff : defect? listing = none ↔ Registrable listing := by
  have hids : firstRepeat? ((sortById listing).map (·.id)) = none ↔ (listing.map (·.id)).Nodup := by
    rw [firstRepeat?_eq_none_iff (pairwise_id_sortById listing)]
    exact ((sortById_perm listing).map _).nodup_iff
  have haddresses :
      firstRepeat? (sortedAddresses listing) = none ↔ (listing.map (·.address)).Nodup := by
    rw [firstRepeat?_eq_none_iff (pairwise_sortedAddresses listing)]
    exact (List.mergeSort_perm ..).nodup_iff
  rw [defect?_eq_none, hids, haddresses]
  exact ⟨fun ⟨hnonempty, hweights, hids, haddresses⟩ => ⟨hnonempty, hweights, hids, haddresses⟩,
    fun h => ⟨h.nonempty, h.weight_ne_zero, h.ids_nodup, h.addresses_nodup⟩⟩

/-! ### The set of a listing -/

theorem ext {set set' : AttestorSet} (h : set.members = set'.members) : set = set' := by
  cases set
  cases set'
  simpa using h

/-- A set is known by its members in any order. -/
theorem eq_of_perm {set set' : AttestorSet} (h : set.members.Perm set'.members) : set = set' :=
  ext (eq_of_increasing_on (·.id) (List.pairwise_map.1 set.sorted)
    (List.pairwise_map.1 set'.sorted) fun _ => h.mem_iff)

/-- A listing is refused for its defect, or sorted by its ids. -/
private theorem ofList_cases (listing : List Attestor) :
    (∃ e, defect? listing = some e ∧ ofList listing = .error e) ∨
      defect? listing = none ∧
        ∃ set, set.members = sortById listing ∧ ofList listing = .ok set := by
  rw [ofList]
  split
  · rename_i e h
    exact .inl ⟨e, h, rfl⟩
  · rename_i h
    exact .inr ⟨h, _, rfl, rfl⟩

/-- A listing becomes a set exactly if it can be registered. -/
theorem exists_ofList_iff : (∃ set, ofList listing = .ok set) ↔ Registrable listing := by
  rw [← defect?_eq_none_iff]
  rcases ofList_cases listing with ⟨e, hdefect, h⟩ | ⟨hdefect, set, -, h⟩
  · simp [h, hdefect]
  · simp [h, hdefect]

/-- A listing becomes the set whose members it lists. -/
theorem ofList_eq_ok_iff : ofList listing = .ok set ↔ set.members.Perm listing := by
  have hmembers {set : AttestorSet} (h : ofList listing = .ok set) :
      set.members.Perm listing := by
    rcases ofList_cases listing with ⟨e, -, he⟩ | ⟨-, set', hsorted, hset'⟩
    · rw [h] at he
      contradiction
    · obtain rfl := Except.ok.inj (h.symm.trans hset')
      exact hsorted ▸ sortById_perm listing
  refine ⟨hmembers, fun h => ?_⟩
  obtain ⟨set', hset'⟩ := exists_ofList_iff.2 ((registrable_members set).perm h)
  rw [hset', eq_of_perm (h.trans (hmembers hset').symm)]

/-- A set is the set of its members. -/
theorem ofList_members (set : AttestorSet) : ofList set.members = .ok set :=
  ofList_eq_ok_iff.2 (.refl _)

/-! ### Members by id -/

/-- An id names one attestor. -/
theorem eq_of_id_eq {a b : Attestor} (ha : a ∈ set.members) (hb : b ∈ set.members)
    (h : a.id = b.id) : a = b :=
  List.inj_on_of_nodup_map (Increasing.nodup set.sorted) ha hb h

/-- An id finds the one attestor that is registered under it. -/
theorem find?_eq_some_iff {id : String} {a : Attestor} :
    set.find? id = some a ↔ a ∈ set.members ∧ a.id = id :=
  bisect?_eq_some_iff (List.pairwise_map.1 set.sorted)

theorem find?_eq_none_iff {id : String} :
    set.find? id = none ↔ ¬ ∃ a ∈ set.members, a.id = id := by
  simp only [Option.eq_none_iff_forall_ne_some, ne_eq, find?_eq_some_iff, not_exists]

theorem contains_iff {id : String} : set.contains id ↔ ∃ a ∈ set.members, a.id = id := by
  rw [contains, Option.isSome_iff_exists]
  simp only [find?_eq_some_iff]

/-- Looking up the ids of some members gives these members. -/
theorem filterMap_find?_ids {group : List Attestor} (h : ∀ a ∈ group, a ∈ set.members) :
    (group.map (·.id)).filterMap set.find? = group := by
  rw [List.filterMap_map]
  conv_rhs => rw [← List.filterMap_some (l := group)]
  exact List.filterMap_congr fun a ha => find?_eq_some_iff.2 ⟨h a ha, rfl⟩

/-- **Registration.** A listing of attestors becomes a set exactly if it is not empty, its weights
are positive and no id and no address is listed twice. The set lists the same attestors with
strictly increasing ids, it is the same for every order of the listing, and an id finds the attestor
that is listed under it and nothing if there is none. -/
theorem registers_exactly (listing : List Attestor) :
    ((∃ set, ofList listing = .ok set) ↔ Registrable listing) ∧
    ∀ set, ofList listing = .ok set →
      set.members.Perm listing ∧
      (set.members.Pairwise fun a b => compare a.id b.id = .lt) ∧
      (∀ relisting, relisting.Perm listing → ofList relisting = .ok set) ∧
      ∀ id, (∀ a, set.find? id = some a ↔ a ∈ listing ∧ a.id = id) ∧
        (set.contains id ↔ ∃ a ∈ listing, a.id = id) := by
  refine ⟨exists_ofList_iff, fun set h => ?_⟩
  have hperm := ofList_eq_ok_iff.1 h
  refine ⟨hperm, List.pairwise_map.1 set.sorted, fun relisting hrelisting => ?_, fun id => ?_⟩
  · exact ofList_eq_ok_iff.2 (hperm.trans hrelisting.symm)
  · constructor
    · intro a
      rw [find?_eq_some_iff, hperm.mem_iff]
    · rw [contains_iff]
      simp only [hperm.mem_iff]

end Attestation.AttestorSet
