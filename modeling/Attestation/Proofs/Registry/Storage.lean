import Attestation.Registry.Basic
import Attestation.Proofs.Registry.Scanning
import Attestation.Proofs.Wire.Messages

/-!
# Loading and saving clients

What a registry finds under each key after a client was saved (`get?_save_state`,
`get?_save_history`, `get?_save_other`), whatever the store held before. A store that holds a client
under its keys and nothing else under its stem (`Stores`) loads that client, and saving another
client leaves it alone.
-/

namespace Attestation.Registry

open Store

variable {r : Registry} {c : Client} {id : String} {key : Bytes}

/-! ### Saving -/

/-- The keys of a client's roots sort by the heights. -/
theorem increasing_historyKeys (id : String) (history : History) :
    Increasing (history.keys.map (historyKey id)) := by
  refine List.pairwise_map.2 (history.increasing_keys.imp fun h => ?_)
  rwa [compare_historyKey]

/-- The keys that saving a client deletes: those under its stem that it does not need. -/
def gone (r : Registry) (c : Client) : List Bytes :=
  (r.store.keysUnder (historyStem c.state.clientId)).filter fun key =>
    !(c.history.keys.map (historyKey c.state.clientId)).contains key

/-- The store after the roots of a client have been saved. -/
def withHistory (r : Registry) (c : Client) : Store :=
  c.history.toList.foldl
    (fun store kept => store.insert (historyKey c.state.clientId kept.1)
      (r.codec.encode ConsensusState.wire kept.2)) ((r.gone c).foldl OrderedMap.erase r.store)

private theorem store_save : (r.save c).store =
    (r.withHistory c).insert (stateKey c.state.clientId)
      (r.codec.encode ClientState.wire c.state) := rfl

/-- After saving, the state is found under its key. -/
theorem get?_save_state :
    (r.save c).store.get? (stateKey c.state.clientId) =
      some (r.codec.encode ClientState.wire c.state) := by
  rw [store_save, OrderedMap.get?_insert, if_pos rfl]

/-- Writing the roots clears every other key under the stem and touches no key elsewhere. -/
private theorem get?_withHistory_of_ne
    (h : ∀ height ∈ c.history.keys, historyKey c.state.clientId height ≠ key) :
    (r.withHistory c).get? key =
      if historyStem c.state.clientId <+: key then none else r.store.get? key := by
  have hnot : !(c.history.keys.map (historyKey c.state.clientId)).contains key := by
    rw [Bool.not_eq_true', ← Bool.not_eq_true, List.contains_iff_mem, List.mem_map]
    exact fun ⟨height, hheight, he⟩ => h height hheight he
  have hgone : key ∈ r.gone c ↔
      historyStem c.state.clientId <+: key ∧ ∃ value, r.store.get? key = some value := by
    rw [gone, List.mem_filter, and_iff_left hnot, mem_keysUnder]
  rw [withHistory, OrderedMap.get?_foldl_insert_of_ne
    fun kept hkept => h kept.1 (List.mem_map_of_mem hkept), OrderedMap.get?_foldl_erase]
  -- under the stem, a key at which something stood was deleted; elsewhere nothing was
  cases hget : r.store.get? key with
  | none => simp
  | some value => simp [hgone, hget]

/-- A root that is kept is written under its key. -/
private theorem get?_withHistory_of_mem {height : UInt64} {kept : ConsensusState}
    (h : c.history.get? height = some kept) :
    (r.withHistory c).get? (historyKey c.state.clientId height) =
      some (r.codec.encode ConsensusState.wire kept) := by
  have hnodup : (c.history.toList.map fun kept => historyKey c.state.clientId kept.1).Nodup := by
    have hkeys := (increasing_historyKeys c.state.clientId c.history).nodup
    rwa [OrderedMap.keys, List.map_map] at hkeys
  have hlisted := OrderedMap.get?_foldl_insert_of_mem (m := (r.gone c).foldl .erase r.store)
    (g := fun kept => r.codec.encode ConsensusState.wire kept.2) hnodup (OrderedMap.mem_toList.2 h)
  exact hlisted

/-- After saving, exactly the kept roots are found under the keys of roots. -/
theorem get?_save_history {height : UInt64} :
    (r.save c).store.get? (historyKey c.state.clientId height) =
      (c.history.get? height).map (r.codec.encode ConsensusState.wire) := by
  rw [store_save, OrderedMap.get?_insert, if_neg (Ne.symm stateKey_ne_historyKey)]
  cases hget : c.history.get? height with
  | some kept => exact get?_withHistory_of_mem hget
  | none =>
    rw [get?_withHistory_of_ne fun height' hheight' he => ?_, if_pos historyStem_prefix_historyKey]
    · rfl
    · obtain ⟨kept, hkept⟩ := OrderedMap.mem_keys.1 hheight'
      rw [historyKey_inj.1 he, hget] at hkept
      contradiction

/-- Saving clears what else was under the stem and leaves all other keys. -/
theorem get?_save_other (hstate : key ≠ stateKey c.state.clientId)
    (hhistory : ∀ height, key ≠ historyKey c.state.clientId height) :
    (r.save c).store.get? key =
      if historyStem c.state.clientId <+: key then none else r.store.get? key := by
  rw [store_save, OrderedMap.get?_insert, if_neg hstate]
  exact get?_withHistory_of_ne fun height _ => Ne.symm (hhistory height)

/-! ### Stored clients -/

/-- The store holds a client under the keys of an id, and nothing else under its stem. -/
structure Stores (r : Registry) (id : String) (c : Client) : Prop where
  state : r.store.get? (stateKey id) = some (r.codec.encode ClientState.wire c.state)
  history (height : UInt64) : r.store.get? (historyKey id height) =
    (c.history.get? height).map (r.codec.encode ConsensusState.wire)
  only {key : Bytes} (h : key ∈ r.store.keysUnder (historyStem id)) :
    ∃ height, key = historyKey id height

/-- What was just saved is stored, whatever the store held. -/
theorem stores_save (hid : '/' ∉ c.state.clientId.toList) :
    Stores (r.save c) c.state.clientId c where
  state := get?_save_state
  history _ := get?_save_history
  only {key} h := by
    obtain ⟨hstem, value, hvalue⟩ := mem_keysUnder.1 h
    -- a key under the stem that is no key of a root would have been deleted
    by_contra hnone
    have hstate : key ≠ stateKey c.state.clientId := by
      rintro rfl
      exact not_historyStem_prefix_stateKey hid hid hstem
    rw [get?_save_other hstate (not_exists.1 hnone), if_pos hstem] at hvalue
    contradiction

/-- Saving a client leaves the others alone. -/
theorem Stores.save_of_ne {c' : Client} (h : Stores r id c) (hid : '/' ∉ id.toList)
    (hid' : '/' ∉ c'.state.clientId.toList) (hne : id ≠ c'.state.clientId) :
    Stores (r.save c') id c := by
  have hstate : ∀ key, historyStem id <+: key → key ≠ stateKey c'.state.clientId := by
    rintro key hstem rfl
    exact not_historyStem_prefix_stateKey hid hid' hstem
  have hhistory : ∀ key, historyStem id <+: key →
      ∀ height, key ≠ historyKey c'.state.clientId height := by
    rintro key hstem height rfl
    exact hne (eq_of_historyStem_prefix_historyKey hid hid' hstem)
  have hstem : ∀ height, ¬ historyStem c'.state.clientId <+: historyKey id height :=
    fun height h => hne (eq_of_historyStem_prefix_historyKey hid' hid h).symm
  refine ⟨?_, fun height => ?_, fun {key} hkey => ?_⟩
  · rw [get?_save_other (fun he => hne (stateKey_injective he)) fun _ => stateKey_ne_historyKey,
      if_neg (not_historyStem_prefix_stateKey hid' hid)]
    exact h.state
  · have hunder := @historyStem_prefix_historyKey id height
    rw [get?_save_other (hstate _ hunder) (hhistory _ hunder), if_neg (hstem height)]
    exact h.history height
  · obtain ⟨hunder, value, hvalue⟩ := mem_keysUnder.1 hkey
    rw [get?_save_other (hstate _ hunder) (hhistory _ hunder)] at hvalue
    split_ifs at hvalue
    exact h.only (mem_keysUnder.2 ⟨hunder, value, hvalue⟩)

theorem get?_save_eq_none (h : r.store.get? (stateKey id) = none) (hne : id ≠ c.state.clientId) :
    (r.save c).store.get? (stateKey id) = none := by
  rw [get?_save_other (fun he => hne (stateKey_injective he)) fun _ => stateKey_ne_historyKey, h,
    ite_self]

/-! ### Loading -/

/-- What lies under the stem of a stored client are the keys of its roots. -/
theorem Stores.keysUnder_eq (h : Stores r id c) :
    r.store.keysUnder (historyStem id) = c.history.keys.map (historyKey id) := by
  refine eq_of_increasing (increasing_keysUnder ..) (increasing_historyKeys id _)
    fun key => ⟨fun hkey => ?_, fun hkey => ?_⟩
  · obtain ⟨height, rfl⟩ := h.only hkey
    obtain ⟨-, value, hvalue⟩ := mem_keysUnder.1 hkey
    rw [h.history, Option.map_eq_some_iff] at hvalue
    obtain ⟨kept, hkept, -⟩ := hvalue
    exact List.mem_map_of_mem (OrderedMap.mem_keys.2 ⟨kept, hkept⟩)
  · obtain ⟨height, hheight, rfl⟩ := List.mem_map.1 hkey
    obtain ⟨kept, hkept⟩ := OrderedMap.mem_keys.1 hheight
    exact mem_keysUnder.2 ⟨historyStem_prefix_historyKey, _, by rw [h.history, hkept]; rfl⟩

/-- The stored roots are the kept ones, in the order of their heights. -/
private theorem Stores.values_eq (h : Stores r id c) :
    (r.store.keysUnder (historyStem id)).filterMap r.store.get? =
      c.history.values.map (r.codec.encode ConsensusState.wire) := by
  rw [h.keysUnder_eq, OrderedMap.keys, OrderedMap.values, List.map_map, List.map_map,
    List.filterMap_map, ← List.filterMap_eq_map]
  refine List.filterMap_congr ?_
  rintro ⟨height, kept⟩ hkept
  show r.store.get? (historyKey id height) = _
  rw [h.history, OrderedMap.mem_toList.1 hkept]
  rfl

/-- A list is read back value by value. -/
private theorem mapM_decode_encode {α : Type} {f : WireFormat α} {l : List α}
    (h : ∀ a ∈ l, r.codec.decode f (r.codec.encode f a) = .ok a) :
    (l.map (r.codec.encode f)).mapM (r.decode f) = .ok l := by
  induction l with
  | nil => rfl
  | cons a l ih =>
    obtain ⟨ha, hl⟩ := List.forall_mem_cons.1 h
    rw [List.map_cons, List.mapM_cons, decode, ha]
    exact bind_eq_ok.2 ⟨a, rfl, bind_eq_ok.2 ⟨l, ih hl, rfl⟩⟩

/-- What was decoded with the binary codec has lengths that fit. -/
theorem short_of_decode {α : Type} {f : WireFormat α} {fits : α → Prop} (hf : f.Binary fits)
    {bytes : Bytes} {a : α} (h : r.decode f bytes = .ok a) : r.codec = .binary → fits a :=
  Codec.fits_of_decode hf (mapError_eq_ok.1 h)

/-- A stored client is loaded if its roots stand under their own heights and its state can be read
back. -/
theorem Stores.load (h : Stores r id c)
    (hown : ∀ height kept, c.history.get? height = some kept → kept.height = height)
    (hshort : r.codec = .binary → c.state.Short) : r.load id = .ok c := by
  have hstate : r.clientState id = .ok c.state := by
    rw [clientState, h.state]
    exact mapError_eq_ok.2 (Codec.decode_encode ClientState.textual ClientState.binary hshort)
  have hkept : c.history.values.map (fun kept => (kept.height, kept)) = c.history.toList := by
    rw [OrderedMap.values, List.map_map]
    refine (List.map_congr_left ?_).trans (List.map_id _)
    rintro ⟨height, kept⟩ he
    exact congrArg (·, kept) (hown height kept (OrderedMap.mem_toList.1 he))
  have hhistory : r.history id = .ok c.history := by
    rw [Registry.history, h.values_eq]
    refine bind_eq_ok.2 ⟨c.history.values, mapM_decode_encode fun kept _ => ?_, ?_⟩
    · exact Codec.decode_encode ConsensusState.textual ConsensusState.binary fun _ => trivial
    · rw [hkept, OrderedMap.ofList_toList]
      rfl
  exact bind_eq_ok.2 ⟨_, hstate, bind_eq_ok.2 ⟨_, hhistory, rfl⟩⟩

theorem load_eq_error (h : r.store.get? (stateKey id) = none) :
    r.load id = .error (.clientNotFound id) := by
  rw [load, clientState, h]
  rfl

end Attestation.Registry
