import Attestation.Registry.Store
import Attestation.Proofs.Bytes
import Attestation.Proofs.OrderedMap

/-!
# The keys of the store

The key of a state is one client's only, and so is the key of a root, which sorts by its height.
Keys of states and of roots never meet, whatever the ids. The stem of a client's roots begins no
other key if ids hold no separator, which is why clients may not have one in theirs.
-/

namespace Attestation.Store

variable {id id' : String} {height height' : UInt64}

/-! ### Separators -/

/-- The separator of the parts of a key. -/
abbrev separator : UInt8 := 0x2f

private theorem separator_notMem (h : '/' ∉ id.toList) : separator ∉ Bytes.ofText id := fun hmem =>
  h (Bytes.toNat_mem_of_mem_ofText (by decide) hmem)

/-- What stands in front of the first separator is known. -/
private theorem append_separator_inj {x y r r' : Bytes} (hx : separator ∉ x) (hy : separator ∉ y)
    (h : x ++ separator :: r = y ++ separator :: r') : x = y ∧ r = r' := by
  have htake : ∀ z t : Bytes, separator ∉ z →
      (z ++ separator :: t).takeWhile (· != separator) = z := by
    intro z t hz
    rw [List.takeWhile_append_of_pos fun b hb => bne_iff_ne.2 (ne_of_mem_of_not_mem hb hz)]
    simp
  obtain rfl : x = y := (htake x r hx).symm.trans (h ▸ htake y r' hy)
  exact ⟨rfl, (List.cons.inj (List.append_cancel_left h)).2⟩

private theorem stateKey_eq (id : String) : stateKey id =
    Bytes.ofText "clients/" ++ (Bytes.ofText id ++ separator :: Bytes.ofText "clientState") := by
  rw [stateKey, List.append_assoc]
  rfl

private theorem historyStem_eq (id : String) : historyStem id =
    Bytes.ofText "clients/" ++
      (Bytes.ofText id ++ separator :: Bytes.ofText "consensusStates/") := by
  rw [historyStem, List.append_assoc]
  rfl

/-! ### Keys of states -/

/-- The key of a state tells the client, even if ids hold separators. -/
theorem stateKey_injective : Function.Injective stateKey := fun id id' h => by
  rw [stateKey, stateKey] at h
  exact Bytes.ofText_injective (List.append_cancel_left (List.append_cancel_right h))

/-- The last twelve bytes tell the keys of states from those of roots. -/
theorem stateKey_ne_historyKey : stateKey id ≠ historyKey id' height := by
  have hstem : historyStem id' =
      (Bytes.ofText "clients/" ++ Bytes.ofText id' ++ Bytes.ofText "/consensusSta") ++
        Bytes.ofText "tes/" := by
    rw [historyStem, List.append_assoc _ (Bytes.ofText "/consensusSta")]
    rfl
  intro h
  rw [stateKey, historyKey, hstem, List.append_assoc _ (Bytes.ofText "tes/")] at h
  have hlast := (List.append_inj' h (by rw [List.length_append, Bytes.length_ofNatBE]; rfl)).2
  exact absurd (List.cons.inj hlast).1 (by decide)

/-! ### Keys of roots -/

theorem compare_toNat (a b : UInt64) : compare a.toNat b.toNat = compare a b := by
  show compareOfLessAndEq _ _ = compareOfLessAndEq _ _
  simp only [compareOfLessAndEq, UInt64.lt_iff_toNat_lt, ← UInt64.toNat_inj]

/-- The keys of a client's roots compare as the heights. -/
theorem compare_historyKey :
    compare (historyKey id height) (historyKey id height') = compare height height' := by
  rw [historyKey, historyKey, Bytes.compare_append_left,
    Bytes.compare_ofNatBE height.toNat_lt height'.toNat_lt, compare_toNat]

/-- Under one id, the key of a root tells its height. -/
theorem historyKey_inj : historyKey id height = historyKey id height' ↔ height = height' := by
  rw [← Std.LawfulEqOrd.compare_eq_iff_eq, compare_historyKey, Std.LawfulEqOrd.compare_eq_iff_eq]

theorem historyStem_prefix_historyKey : historyStem id <+: historyKey id height :=
  List.prefix_append ..

/-! ### Stems -/

/-- A root that lies under the stem of an id belongs to that id. -/
theorem eq_of_historyStem_prefix_historyKey (hid : '/' ∉ id.toList) (hid' : '/' ∉ id'.toList)
    (h : historyStem id <+: historyKey id' height) : id = id' := by
  obtain ⟨rest, h⟩ := h
  simp only [historyKey, historyStem_eq, List.append_assoc, List.append_cancel_left_eq] at h
  exact Bytes.ofText_injective
    (append_separator_inj (separator_notMem hid) (separator_notMem hid') h).1

/-- No state lies under a stem. -/
theorem not_historyStem_prefix_stateKey (hid : '/' ∉ id.toList) (hid' : '/' ∉ id'.toList) :
    ¬ historyStem id <+: stateKey id' := by
  rintro ⟨rest, h⟩
  simp only [stateKey_eq, historyStem_eq, List.append_assoc, List.append_cancel_left_eq] at h
  -- behind the separator stands `co` in one key and `cl` in the other
  have hrest := (append_separator_inj (separator_notMem hid) (separator_notMem hid') h).2
  exact absurd (List.cons.inj (List.cons.inj hrest).2).1 (by decide)

end Attestation.Store
