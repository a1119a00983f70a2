import Attestation.Proofs.Client.Lifecycle
import Attestation.Proofs.Client.Safety

/-!
# Accountable agreement

Two clients with the same voters may be led to different roots at one height only by attestors that
signed both. Whenever a client reports a root as new, some batch that it was given has a quorum for
the root (`exists_hasQuorum_of_updated`), and two quorums of one set overlap: what they share weighs
at least twice the threshold less the whole set (`HasQuorum.overlap`). The shared attestors are
found in the claims alone, which are the evidence against them (`doubleSigners`).
-/

namespace Attestation

/-! ### Attestors behind two roots -/

section Batches

variable (recover : Recovery) (s : ClientState) (batch batch' : List Claim)

/-- The attestors with a usable claim for one root at a height in a batch and a usable claim for
another root there in another batch. -/
def doubleSigners (height : UInt64) (root root' : Digest) : List Attestor :=
  s.attestors.members.filter fun a =>
    (∃ c ∈ supporting recover s batch height root, c.attestorId = a.id) ∧
      ∃ c ∈ supporting recover s batch' height root', c.attestorId = a.id

end Batches

variable {recover : Recovery} {s : ClientState} {batch batch' : List Claim} {height : UInt64}
  {root root' : Digest}

/-- Quorums for two roots overlap in attestors that signed both. -/
theorem HasQuorum.overlap (h : HasQuorum recover s batch height root)
    (h' : HasQuorum recover s batch' height root') :
    2 * s.policy.threshold.toNat ≤
      s.policy.exactWeight (doubleSigners recover s batch batch' height root root') +
        s.policy.exactWeight s.attestors.members := by
  have hreached : s.policy.threshold.toNat ≤ s.policy.exactWeight _ := h.2
  have hreached' : s.policy.threshold.toNat ≤ s.policy.exactWeight _ := h'.2
  calc 2 * s.policy.threshold.toNat
      = s.policy.threshold.toNat + s.policy.threshold.toNat := Nat.two_mul _
    _ ≤ s.policy.exactWeight (supporters recover s batch height root) +
          s.policy.exactWeight (supporters recover s batch' height root') :=
        Nat.add_le_add hreached hreached'
    _ ≤ _ := s.policy.exactWeight_filter_add_le s.attestors.members _ _

/-! ### Updates of a run -/

namespace Client

variable {c c' : Client} {s' : ClientState} {initial initial' : Option ConsensusState}
  {batches batches' : List (List Claim)}

/-- A root that an update reports as new has a quorum in the batch. -/
theorem UpdateStep.hasQuorum {out : Client × Except ClientError UpdateOutcome}
    (hstep : UpdateStep recover c batch out) (hout : out.2 = .ok (.updated height root)) :
    HasQuorum recover c.state batch height root := by
  cases hstep with
  | frozen status => exact nomatch hout
  | updated status verdict fresh =>
    obtain ⟨rfl, rfl⟩ := UpdateOutcome.updated.inj (Except.ok.inj hout)
    exact ((judged_aggregate recover c.state batch).accepted_iff.1 verdict).2.2.quorum
  | confirmed status verdict => exact nomatch hout
  | conflict status verdict => exact nomatch hout
  | refused status verdict other => exact nomatch hout

/-- A root that a run of updates reports as new has a quorum in one of its batches, counted by the
voters that the client had in the beginning. -/
theorem exists_hasQuorum_of_updated
    (h : .ok (some (.updated height root)) ∈ c.outcomes recover (batches.map .update)) :
    ∃ batch ∈ batches, HasQuorum recover c.state batch height root := by
  induction batches generalizing c with
  | nil => exact absurd h List.not_mem_nil
  | cons batch batches ih =>
    have hstep := updateStep_update recover c batch
    rw [List.map_cons, outcomes] at h
    rcases List.mem_cons.1 h with hnow | hlater
    · have hout : (c.update recover batch).2 = .ok (.updated height root) := by
        rw [perform] at hnow
        cases hresult : (c.update recover batch).2 with
        | error cause =>
          rw [hresult] at hnow
          contradiction
        | ok outcome =>
          rw [hresult] at hnow
          rw [Option.some.inj (Except.ok.inj hnow)]
      exact ⟨batch, List.mem_cons_self, hstep.hasQuorum hout⟩
    · -- the voters are still the same after the first batch
      obtain ⟨later, hmem, hquorum⟩ := ih hlater
      exact ⟨later, List.mem_cons_of_mem _ hmem, hstep.sameVoters.hasQuorum_iff.1 hquorum⟩

/-- A root that some batch of a run makes the client trust has a quorum among all claims of the
run. -/
private theorem hasQuorum_flatten_of_updated
    (h : .ok (some (.updated height root)) ∈ c.outcomes recover (batches.map .update)) :
    HasQuorum recover c.state batches.flatten height root := by
  obtain ⟨batch, hmem, hquorum⟩ := exists_hasQuorum_of_updated h
  exact hquorum.mono fun c hc => List.mem_flatten.2 ⟨batch, hmem, hc⟩

private theorem state_of_create (h : create s initial = .ok c) : c.state = s := by
  obtain ⟨-, ⟨-, -, rfl⟩ | ⟨first, -, -, -, rfl⟩⟩ := create_eq_ok_iff.1 h
  · rfl
  · rfl

/-- **Accountable agreement.** Two new clients with the same chain, attestors and policy are given
batches of their own. If one of them ever reports a root at a height as new and the other one a root
there too, then the attestors with usable claims for both, one among the claims given to the first
and one among those given to the second, have an exact weight of at least twice the threshold less
the exact weight of the whole set. If the roots differ, these attestors signed a contradiction. -/
theorem double_signers_outweigh (hcreate : create s initial = .ok c)
    (hcreate' : create s' initial' = .ok c') (hvoters : SameVoters s s')
    (hupdated : .ok (some (.updated height root)) ∈ c.outcomes recover (batches.map .update))
    (hupdated' : .ok (some (.updated height root')) ∈ c'.outcomes recover (batches'.map .update)) :
    2 * s.policy.threshold.toNat - s.policy.exactWeight s.attestors.members ≤
      s.policy.exactWeight
        (doubleSigners recover s batches.flatten batches'.flatten height root root') := by
  obtain rfl := state_of_create hcreate
  obtain rfl := state_of_create hcreate'
  have hquorum := hasQuorum_flatten_of_updated hupdated
  have hquorum' := hvoters.hasQuorum_iff.1 (hasQuorum_flatten_of_updated hupdated')
  exact Nat.sub_le_of_le_add (hquorum.overlap hquorum')

namespace ThreeVoters

/-- A client of another id that keeps fewer roots. -/
def elsewhere : ClientState := { start with clientId := "elsewhere", historyWindow := 3 }

/-- Eve confirms to Ann's client what Ann states, after a claim of her own. -/
def eveWithAnn : List (List Claim) :=
  [[claim "eve" 3 5 (trueRoot 6)], [claim "ann" 1 5 (trueRoot 5), claim "eve" 3 5 (trueRoot 5)]]

/-- Eve confirms to Bob's client another root. -/
def eveWithBob : List (List Claim) :=
  [[claim "eve" 3 5 (trueRoot 7), claim "bob" 2 5 (trueRoot 7)]]

end ThreeVoters

open ThreeVoters in
/-- Two clients trust different roots at height five, and Eve alone is to blame. -/
theorem double_signers_outweigh_eve :
    create start none = .ok ⟨start, .empty⟩ ∧ create elsewhere none = .ok ⟨elsewhere, .empty⟩ ∧
    SameVoters start elsewhere ∧ trueRoot 5 ≠ trueRoot 7 ∧
    .ok (some (.updated 5 (trueRoot 5))) ∈
      outcomes readSigner ⟨start, .empty⟩ (eveWithAnn.map .update) ∧
    .ok (some (.updated 5 (trueRoot 7))) ∈
      outcomes readSigner ⟨elsewhere, .empty⟩ (eveWithBob.map .update) ∧
    (doubleSigners readSigner start eveWithAnn.flatten eveWithBob.flatten 5 (trueRoot 5)
      (trueRoot 7)).map (·.id) = ["eve"] ∧
    2 * 2 - 3 ≤ start.policy.exactWeight (doubleSigners readSigner start eveWithAnn.flatten
      eveWithBob.flatten 5 (trueRoot 5) (trueRoot 7)) := by
  have hcreate : create start none = .ok ⟨start, .empty⟩ := by decide +kernel
  have hcreate' : create elsewhere none = .ok ⟨elsewhere, .empty⟩ := by decide +kernel
  have hvoters : SameVoters start elsewhere := ⟨rfl, rfl, rfl⟩
  have hroots : trueRoot 5 ≠ trueRoot 7 := by decide
  have hupdated : .ok (some (.updated 5 (trueRoot 5))) ∈
      outcomes readSigner ⟨start, .empty⟩ (eveWithAnn.map .update) := by decide +kernel
  have hupdated' : .ok (some (.updated 5 (trueRoot 7))) ∈
      outcomes readSigner ⟨elsewhere, .empty⟩ (eveWithBob.map .update) := by decide +kernel
  have heve : (doubleSigners readSigner start eveWithAnn.flatten eveWithBob.flatten 5 (trueRoot 5)
      (trueRoot 7)).map (·.id) = ["eve"] := by decide +kernel
  exact ⟨hcreate, hcreate', hvoters, hroots, hupdated, hupdated', heve,
    double_signers_outweigh hcreate hcreate' hvoters hupdated hupdated'⟩

end Client

end Attestation
