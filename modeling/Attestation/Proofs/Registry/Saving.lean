import Attestation.Proofs.Client.Safety
import Attestation.Proofs.Registry.Storage

/-!
# Saving over anything

Saving a client asks nothing of what the store held before. Leftovers under its stem are deleted or
overwritten, whether or not they are keys of roots or can be decoded, and its state is overwritten,
so what is loaded next is the client again (`load_of_save`). All other keys are left alone.
-/

namespace Attestation.Registry

open Store

variable {r : Registry} {c : Client} {id : String}

private theorem clientState_of_load (h : r.load id = .ok c) : r.clientState id = .ok c.state := by
  obtain ⟨state, hstate, hrest⟩ := bind_eq_ok.1 h
  obtain ⟨history, -, hc⟩ := bind_eq_ok.1 hrest
  obtain rfl := Except.ok.inj hc
  exact hstate

/-- What is loaded fits the layout that it was read from. -/
private theorem short_of_load (h : r.load id = .ok c) : r.codec = .binary → c.state.Short := by
  have hstate := clientState_of_load h
  rw [clientState] at hstate
  split at hstate
  · contradiction
  · exact short_of_decode ClientState.binary hstate

/-- **A saved client is loaded again.** Let the id of a client have no separator and its roots stand
under their own heights. Whatever the store held before, also under the keys of the client, once the
client is saved it is the one that is loaded: always with the JSON text, and with the binary layout
exactly if the lengths of its texts and of its listing of attestors can be written there, as those
of all that is held in memory can. Under the stem of the client the store then has the keys of the
kept heights and no other, and away from the stem and the key of the state it is as it was. -/
theorem load_of_save (r : Registry) (c : Client) (hid : '/' ∉ c.state.clientId.toList)
    (hown : ∀ height kept, c.history.get? height = some kept → kept.height = height) :
    let id := c.state.clientId
    ((r.save c).load id = .ok c ↔ (r.codec = .binary → c.state.Short)) ∧
    (r.save c).store.keysUnder (historyStem id) = c.history.keys.map (historyKey id) ∧
    ∀ key, key ≠ stateKey id → ¬ historyStem id <+: key →
      (r.save c).store.get? key = r.store.get? key := by
  intro id
  have hstores : Stores (r.save c) id c := stores_save hid
  refine ⟨⟨short_of_load, hstores.load hown⟩, hstores.keysUnder_eq, fun key hstate hstem => ?_⟩
  have hhistory : ∀ height, key ≠ historyKey id height := by
    rintro height rfl
    exact hstem historyStem_prefix_historyKey
  rw [get?_save_other hstate hhistory, if_neg hstem]

/-! ### Leftovers -/

open Client.ThreeVoters

/-- A store with a state and a root that cannot be decoded, with a root that is no longer kept, with
a key under the stem that is none of a root, and with the state of another client. -/
def leftovers : Store :=
  .ofList [(stateKey "client", [0xff]), (historyKey "client" 5, [1]), (historyKey "client" 9, [2]),
    (historyStem "client" ++ [0x2f], [3]), (stateKey "client2", [4])]

/-- A client is loaded as it was saved over bytes that nobody can read, and the keys of another
client stay. -/
theorem load_of_save_over_leftovers :
    let r := new leftovers .binary "gov"
    let c : Client := ⟨start, .ofList [(0, first), (5, ⟨5, trueRoot 5, 7⟩)]⟩
    '/' ∉ c.state.clientId.toList ∧
    (∀ height kept, c.history.get? height = some kept → kept.height = height) ∧
    c.state.Short ∧ (r.save c).load "client" = .ok c ∧
    (r.save c).store.keysUnder (historyStem "client") =
      [historyKey "client" 0, historyKey "client" 5] ∧
    (r.save c).store.get? (stateKey "client2") = some [4] := by
  intro r c
  have hid : '/' ∉ c.state.clientId.toList := by decide
  have hlisted : ∀ e ∈ c.history.toList, e.2.height = e.1 := by decide
  have hown : ∀ height kept, c.history.get? height = some kept → kept.height = height :=
    fun _ _ h => hlisted _ (OrderedMap.mem_toList.2 h)
  have hshort : c.state.Short := ⟨by decide, by decide, by decide +kernel, by decide +kernel⟩
  obtain ⟨hload, hkeys, hother⟩ := load_of_save r c hid hown
  refine ⟨hid, hown, hshort, hload.2 fun _ => hshort, hkeys, ?_⟩
  exact hother (stateKey "client2") (by decide +kernel) (by decide +kernel)

end Attestation.Registry
