import Attestation.Proofs.Client.Lifecycle
import Attestation.Proofs.Client.Safety

/-!
# What is true of every client

A client that was created and then underwent any operations, with whatever success, has a valid
state and keeps each root under its own height, at heights from the oldest retained to the latest
one (`WellFormed`). Creation establishes this, and each change that an operation can make keeps it.
-/

namespace Attestation

/-! ### Windows -/

theorem Word.sub_le (a b : UInt64) : Word.sub a b ≤ a := by
  rw [Word.sub]
  split_ifs with h
  · rw [UInt64.le_iff_toNat_le, UInt64.toNat_sub_of_le _ _ h]
    exact Nat.sub_le _ _
  · exact UInt64.zero_le

theorem ClientState.oldestRetained_le (s : ClientState) : s.oldestRetained ≤ s.latestHeight :=
  Word.sub_le _ _

namespace Client

variable {recover : Recovery} {c : Client} {s : ClientState} {height : UInt64}
  {kept : ConsensusState}

/-- Pruning drops exactly what is below the oldest height that is retained. -/
private theorem get?_prune {history : History} : (s.prune history).get? height =
    if s.oldestRetained ≤ height then history.get? height else none := by
  rw [ClientState.prune, OrderedMap.get?_filterKeys]
  simp only [decide_eq_true_eq]

/-- What an advanced client keeps: the accepted root at its height, and what is left of the rest. -/
theorem get?_advance {u : AcceptedUpdate} : (c.advance u).history.get? height =
    if (c.advance u).state.oldestRetained ≤ height then
      if height = u.height then some u.consensusState else c.history.get? height
    else none := by
  rw [advance, get?_prune, OrderedMap.get?_insert]

/-- What a recovered client keeps. -/
theorem get?_restart : (c.restart s).history.get? height =
    if s.oldestRetained ≤ height then (recoveredHistory c.history s).get? height else none :=
  get?_prune

/-! ### Well-formed clients -/

/-- A valid state, whose trusted roots stand under their own heights and inside the window. -/
structure WellFormed (c : Client) : Prop where
  valid : c.state.validate = .ok ()
  ownHeight : ∀ height kept, c.history.get? height = some kept → kept.height = height
  retained : ∀ height kept, c.history.get? height = some kept → c.state.oldestRetained ≤ height
  trusted : ∀ height kept, c.history.get? height = some kept → height ≤ c.state.latestHeight

theorem wellFormed_create {initial : Option ConsensusState} (h : create s initial = .ok c) :
    c.WellFormed := by
  obtain ⟨hvalid, ⟨-, -, rfl⟩ | ⟨first, -, hheight, -, rfl⟩⟩ := create_eq_ok_iff.1 h
  · refine ⟨hvalid, ?_, ?_, ?_⟩ <;> exact fun _ _ h => nomatch h
  · have hfirst : ∀ height kept,
        (OrderedMap.singleton first.height first).get? height = some kept →
          height = s.latestHeight ∧ kept = first := by
      intro height kept hget
      rw [OrderedMap.get?_singleton] at hget
      split_ifs at hget with heq
      exact ⟨heq.trans hheight, (Option.some.inj hget).symm⟩
    refine ⟨hvalid, fun height kept hget => ?_, fun height kept hget => ?_,
      fun height kept hget => ?_⟩
    · obtain ⟨rfl, rfl⟩ := hfirst height kept hget
      exact hheight
    · rw [(hfirst height kept hget).1]
      exact s.oldestRetained_le
    · exact UInt64.le_of_eq (hfirst height kept hget).1

theorem WellFormed.freeze (h : c.WellFormed) : (c.freeze height).WellFormed := by
  rw [Client.freeze, ClientState.freeze]
  split_ifs
  · exact h
  · exact ⟨h.valid, h.ownHeight, h.retained, h.trusted⟩

/-- An update above the latest height keeps a client well formed. -/
theorem WellFormed.advance (h : c.WellFormed) {u : AcceptedUpdate}
    (hfresh : c.state.latestHeight < u.height) : (c.advance u).WellFormed := by
  have hkept : ∀ height kept, (c.advance u).history.get? height = some kept →
      (c.advance u).state.oldestRetained ≤ height ∧
        (height = u.height ∧ kept = u.consensusState ∨ c.history.get? height = some kept) := by
    intro height kept hget
    rw [get?_advance] at hget
    split_ifs at hget with hretained heq
    · exact ⟨hretained, .inl ⟨heq, (Option.some.inj hget).symm⟩⟩
    · exact ⟨hretained, .inr hget⟩
  refine ⟨h.valid, fun height kept hget => ?_, fun height kept hget => (hkept height kept hget).1,
    fun height kept hget => ?_⟩
  · rcases (hkept height kept hget).2 with ⟨rfl, rfl⟩ | hold
    · rfl
    · exact h.ownHeight height kept hold
  · rcases (hkept height kept hget).2 with ⟨rfl, -⟩ | hold
    · exact UInt64.le_refl _
    · exact UInt64.le_trans (h.trusted height kept hold) (UInt64.le_of_lt hfresh)

theorem WellFormed.withVoters (h : c.WellFormed) {attestors : AttestorSet} {policy : QuorumPolicy}
    (hvalid : policy.validate attestors = .ok ()) : (c.withVoters attestors policy).WellFormed := by
  refine ⟨?_, h.ownHeight, h.retained, h.trusted⟩
  obtain ⟨hids, hseparator, -⟩ := ClientState.validate_eq_ok_iff.1 h.valid
  exact ClientState.validate_eq_ok_iff.2 ⟨hids, hseparator, hvalid⟩

theorem WellFormed.restart (h : c.WellFormed) (hvalid : s.validate = .ok ()) :
    (c.restart s).WellFormed := by
  have hkept : ∀ height kept, (c.restart s).history.get? height = some kept →
      s.oldestRetained ≤ height ∧ height ≤ s.latestHeight ∧ kept.height = height := by
    intro height kept hget
    rw [get?_restart, get?_recoveredHistory] at hget
    split_ifs at hget with hretained hnew hle
    · obtain ⟨-, rfl⟩ := hnew
      obtain rfl := Option.some.inj hget
      refine ⟨hretained, UInt64.le_refl _, ?_⟩
      -- the patched state is one that was kept for this height, or a new one for it
      cases hknown : c.history.get? s.latestHeight with
      | none => rfl
      | some known => exact h.ownHeight _ known hknown
    · exact ⟨hretained, hle, h.ownHeight height kept hget⟩
  exact ⟨hvalid, fun height kept hget => (hkept height kept hget).2.2,
    fun height kept hget => (hkept height kept hget).1,
    fun height kept hget => (hkept height kept hget).2.1⟩

/-- Whatever a batch of claims does, it keeps a client well formed. -/
theorem UpdateStep.wellFormed {batch : List Claim} {out : Client × Except ClientError UpdateOutcome}
    (hstep : UpdateStep recover c batch out) (h : c.WellFormed) : out.1.WellFormed := by
  exact hstep.preserves h (fun _ => h.freeze) fun _ fresh => h.advance fresh

/-- Every operation keeps a client well formed. -/
theorem Step.wellFormed {op : Operation} {out : Client × Except ClientError (Option UpdateOutcome)}
    (hstep : Step recover c op out) (h : c.WellFormed) : out.1.WellFormed := by
  refine hstep.preserves h (fun _ => h.freeze) (fun _ fresh => h.advance fresh) ?_ ?_
  · exact fun _ _ valid => h.withVoters valid
  · exact fun _ _ valid => h.restart valid

/-- **Representation invariant.** Whatever operations a new client undergoes, and whether they
succeed or fail, its state is valid, so that the threshold is positive and the current attestors
reach it together, each trusted root is kept under its own height, and only heights from the oldest
retained to the latest one are kept. -/
theorem wellFormed_afterOperations {initial : Option ConsensusState} {ops : List Operation}
    (hcreate : create s initial = .ok c) :
    (c.afterOperations recover ops).WellFormed ∧
      0 < (c.afterOperations recover ops).state.policy.threshold.toNat ∧
      (c.afterOperations recover ops).state.policy.threshold.toNat ≤
        (c.afterOperations recover ops).state.policy.exactWeight
          (c.afterOperations recover ops).state.attestors.members := by
  have hwell : (c.afterOperations recover ops).WellFormed :=
    afterOperations_induction (wellFormed_create hcreate) fun _ _ _ _ hstep h => hstep.wellFormed h
  obtain ⟨-, -, hpolicy⟩ := ClientState.validate_eq_ok_iff.1 hwell.valid
  exact ⟨hwell, QuorumPolicy.validate_eq_ok_iff.1 hpolicy⟩

namespace ThreeVoters

/-- A state behind the dispute, at a height where nothing was kept. -/
def earlier : ClientState := { start with latestHeight := 3, latestRoot := trueRoot 3 }

/-- The voters settle their dispute, a policy that they cannot meet is refused, and the client is
frozen and set back behind the dispute. -/
def setback : List Operation :=
  [.update dispute, .updateAttestors attestors (.count 4), .freeze 9, .recover earlier]

end ThreeVoters

open ThreeVoters in
/-- After the setback the first root and the one of the substitute are kept. -/
theorem wellFormed_afterOperations_setback :
    create start (some first) = .ok ⟨start, .singleton 0 first⟩ ∧
    (afterOperations readSigner ⟨start, .singleton 0 first⟩ setback).history.keys = [0, 3] ∧
    (afterOperations readSigner ⟨start, .singleton 0 first⟩ setback).WellFormed := by
  have hcreate : create start (some first) = .ok ⟨start, .singleton 0 first⟩ := by decide +kernel
  have hkeys : (afterOperations readSigner ⟨start, .singleton 0 first⟩ setback).history.keys =
      [0, 3] := by decide +kernel
  exact ⟨hcreate, hkeys, (wellFormed_afterOperations hcreate).1⟩

end Client

end Attestation
