import Attestation.Proofs.Registry.Keys

/-!
# Scanning the store

A scan begins at its stem and ends at the first key that does not start with the stem, so it looks
neither in front nor behind. It finds all there is (`mem_keysUnder`) because no key that starts with
the stem is below it (`isGE_of_prefix`) and whatever stands between the stem and such a key starts
with the stem too (`prefix_of_between`). Together with what tells the keys apart this makes the scan
of a client's stem a listing of its heights in numeric order (`scans_and_keys_exact`).
-/

namespace Attestation.Store

variable {store : Store} {stem key key' : Bytes}

/-! ### Keys that start with a stem -/

/-- No key that starts with the stem is below it. -/
theorem isGE_of_prefix (h : stem <+: key) : (compare key stem).isGE := by
  obtain ⟨rest, rfl⟩ := h
  have hrest : compare (stem ++ rest) (stem ++ []) = compare rest [] := Bytes.compare_append_left
  rw [List.append_nil] at hrest
  rw [hrest]
  cases rest <;> rfl

/-- What lies between the stem and a key that starts with it starts with it, too. -/
theorem prefix_of_between (hstem : (compare key stem).isGE) (hlt : compare key key' = .lt)
    (h : stem <+: key') : stem <+: key := by
  induction stem generalizing key key' with
  | nil => exact List.nil_prefix
  | cons b stem ih =>
    obtain ⟨rest, rfl⟩ := h
    cases key with
    | nil => exact nomatch hstem
    | cons a key =>
      rw [List.compare_cons_cons] at hstem
      rw [List.cons_append, List.compare_cons_cons] at hlt
      -- a first byte other than that of the stem is on the wrong side of one of the two bounds
      cases hab : compare a b with
      | lt =>
        rw [hab] at hstem
        exact nomatch hstem
      | gt =>
        rw [hab] at hlt
        exact nomatch hlt
      | eq =>
        rw [hab, Ordering.eq_then] at hstem hlt
        obtain rfl := Std.LawfulEqOrd.eq_of_compare hab
        exact (List.prefix_cons_inj a).2 (ih hstem hlt (List.prefix_append ..))

/-! ### Scans -/

/-- A scan that ends at the first other key finds every key under the stem. -/
theorem keysUnder_eq_filter (store : Store) (stem : Bytes) :
    store.keysUnder stem = store.keys.filter stem.isPrefixOf := by
  have hfrom := store.keysFrom_eq_filter stem
  have hcut : (store.keysFrom stem).Pairwise fun a b => stem.isPrefixOf b → stem.isPrefixOf a := by
    rw [hfrom]
    refine (store.increasing_keys.filter _).imp_of_mem fun ha _ hab hb => ?_
    rw [List.isPrefixOf_iff_prefix] at hb ⊢
    exact prefix_of_between (List.mem_filter.1 ha).2 hab hb
  rw [keysUnder, takeWhile_eq_filter hcut, hfrom, List.filter_filter]
  refine List.filter_congr fun key _ => Bool.and_eq_left_iff_imp.2 fun h => ?_
  exact isGE_of_prefix (List.isPrefixOf_iff_prefix.1 h)

/-- A scan finds the stored keys that start with the stem. -/
theorem mem_keysUnder :
    key ∈ store.keysUnder stem ↔ stem <+: key ∧ ∃ value, store.get? key = some value := by
  rw [keysUnder_eq_filter, List.mem_filter, OrderedMap.mem_keys, List.isPrefixOf_iff_prefix,
    and_comm]

/-- A scan lists keys in increasing order. -/
theorem increasing_keysUnder (store : Store) (stem : Bytes) :
    Increasing (store.keysUnder stem) := by
  rw [keysUnder_eq_filter]
  exact store.increasing_keys.filter _

/-! ### Exactness -/

/-- **Scans and keys are exact.** Whatever a store holds, a scan lists every stored key that starts
with the stem, each once and in the order of bytes, and no other. For ids without a separator the
stem of one client begins the key of a root exactly if the root is that client's, and the key tells
the client and the height, also where bytes of the height are separators. A key of a state is never
that of a root and tells its client. The keys of one client's roots are ordered as the numbers that
the heights are. -/
theorem scans_and_keys_exact :
    (∀ (store : Store) (stem : Bytes), Increasing (store.keysUnder stem) ∧
      ∀ key, key ∈ store.keysUnder stem ↔ stem <+: key ∧ ∃ value, store.get? key = some value) ∧
    (∀ id id' : String, '/' ∉ id.toList → '/' ∉ id'.toList → ∀ height height',
      (historyStem id' <+: historyKey id height ↔ id = id') ∧
      (historyKey id height = historyKey id' height' ↔ id = id' ∧ height = height')) ∧
    (∀ id id' height, historyKey id height ≠ stateKey id') ∧
    Function.Injective stateKey ∧
    ∀ id height height', compare (historyKey id height) (historyKey id height') =
      compare height.toNat height'.toNat := by
  refine ⟨fun store stem => ⟨increasing_keysUnder store stem, fun key => mem_keysUnder⟩,
    fun id id' hid hid' height height' => ⟨?_, ?_⟩, fun _ _ _ => stateKey_ne_historyKey.symm,
    stateKey_injective, fun id height height' => ?_⟩
  · refine ⟨fun h => (eq_of_historyStem_prefix_historyKey hid' hid h).symm, ?_⟩
    rintro rfl
    exact historyStem_prefix_historyKey
  · refine ⟨fun h => ?_, ?_⟩
    · have hstem : historyStem id <+: historyKey id' height' := h ▸ historyStem_prefix_historyKey
      obtain rfl := eq_of_historyStem_prefix_historyKey hid hid' hstem
      exact ⟨rfl, historyKey_inj.1 h⟩
    · rintro ⟨rfl, rfl⟩
      rfl
  · rw [compare_historyKey, compare_toNat]

/-- A height all of whose bytes are separators, under two ids of which one begins the other. -/
theorem scans_and_keys_exact_at_separators :
    '/' ∉ "c".toList ∧ '/' ∉ "c2".toList ∧
    ¬ historyStem "c" <+: historyKey "c2" 0x2f2f2f2f2f2f2f2f ∧
    historyKey "c" 0x2f2f2f2f2f2f2f2f ≠ historyKey "c2" 0x2f2f2f2f2f2f2f2f := by
  have hc : '/' ∉ "c".toList := by decide
  have hc2 : '/' ∉ "c2".toList := by decide
  obtain ⟨-, hkeys, -⟩ := scans_and_keys_exact
  refine ⟨hc, hc2, fun h => ?_, fun h => ?_⟩
  · exact absurd ((hkeys "c2" "c" hc2 hc _ 0).1.1 h) (by decide)
  · exact absurd ((hkeys "c" "c2" hc hc2 _ _).2.1 h).1 (by decide)

end Attestation.Store
