import Attestation.Proofs.Client.Freezing
import Attestation.Proofs.Client.Safety

/-!
# Replay protection

A batch that was submitted once is settled (`Settled`): either the client was frozen by it or before
it, or no root above the latest height has a quorum in the batch any more, since the highest one was
adopted and all others stay at or below it. As long as the voters stay the same and the client is
not recovered, latest heights only go up and frozen clients stay frozen (`Onward`), so the batch
stays settled, and to submit it again changes nothing.
-/

namespace Attestation

namespace Client

variable {recover : Recovery} {c c' : Client} {s : ClientState} {batch : List Claim}
  {op : Operation} {ops : List Operation} {height : UInt64} {root : Digest}

/-! ### Settled batches -/

/-- A batch is settled for a client that is frozen, or for which no root above the latest height has
a quorum in the batch. -/
def Settled (recover : Recovery) (batch : List Claim) (c : Client) : Prop :=
  c.state.isFrozen ∨ Idle recover c.state batch

/-- For an active client a settled batch has no quorum above the trusted height. -/
theorem Settled.idle (h : Settled recover batch c) (hactive : c.state.status = .active) :
    Idle recover c.state batch := by
  rcases h with hfrozen | hidle
  · rw [status_eq_active_iff.1 hactive] at hfrozen
    contradiction
  · exact hidle

/-- A batch is settled by submitting it. -/
theorem UpdateStep.settled {out : Client × Except ClientError UpdateOutcome}
    (hstep : UpdateStep recover c batch out) : Settled recover batch out.1 := by
  have hjudged := judged_aggregate recover c.state batch
  cases hstep with
  | frozen status => exact .inl (isFrozen_iff.2 ⟨_, status⟩)
  | updated status verdict fresh =>
    obtain ⟨-, hgreatest, -⟩ := hjudged.accepted_iff.1 verdict
    refine .inr fun height root hfresh hquorum => ?_
    -- the adopted height is the highest with a quorum, and the voters are the same
    have hbefore : HasQuorum recover c.state batch height root :=
      (SameVoters.hasQuorum_iff ⟨rfl, rfl, rfl⟩).1 hquorum
    have hle := hgreatest.2 ⟨UInt64.lt_trans fresh hfresh, root, hbefore⟩
    exact UInt64.not_le.2 hfresh hle
  | confirmed status verdict => exact .inr (hjudged.alreadyTrusted_iff.1 verdict).2.1
  | conflict status verdict =>
    rw [freeze_of_active status]
    exact .inl rfl
  | refused status verdict other =>
    rw [verdict] at hjudged
    cases hjudged with
    | conflict least => exact absurd rfl (other _)
    | refused calm idle unconfirmed hother => exact .inr idle

/-- A settled batch changes nothing. -/
theorem Settled.update_eq (h : Settled recover batch c) : (c.update recover batch).1 = c := by
  have hjudged := judged_aggregate recover c.state batch
  have hstep := updateStep_update recover c batch
  generalize c.update recover batch = out at hstep ⊢
  cases hstep with
  | frozen status => rfl
  | updated status verdict fresh =>
    obtain ⟨-, -, hsupported⟩ := hjudged.accepted_iff.1 verdict
    exact absurd hsupported.quorum (h.idle status _ _ fresh)
  | confirmed status verdict => rfl
  | conflict status verdict =>
    obtain ⟨hfresh, hconflict⟩ := (hjudged.conflict_iff.1 verdict).1
    exact absurd hconflict ((h.idle status).calm _ hfresh)
  | refused status verdict other => rfl

/-- A batch that was adopted is a confirmation of what was adopted. -/
private theorem update_of_updated (h : (c.update recover batch).2 = .ok (.updated height root)) :
    (c.update recover batch).1.update recover batch =
      ((c.update recover batch).1, .ok .unchanged) := by
  have hstep := updateStep_update recover c batch
  have hsettled := hstep.settled
  generalize c.update recover batch = out at h hstep hsettled ⊢
  cases hstep with
  | frozen status => exact nomatch h
  | @updated u status verdict fresh =>
    have hactive : (c.advance u).state.status = .active := status
    have hidle : Idle recover (c.advance u).state batch := hsettled.idle hactive
    -- the adopted root is now the trusted one, and the same batch still carries it
    obtain ⟨-, -, hsupported⟩ := (judged_aggregate recover c.state batch).accepted_iff.1 verdict
    have hquorum : HasQuorum recover (c.advance u).state batch u.height u.root :=
      (SameVoters.hasQuorum_iff ⟨rfl, rfl, rfl⟩).2 hsupported.quorum
    have htrusted := (judged_aggregate recover (c.advance u).state batch).alreadyTrusted_iff.2
      ⟨hidle.calm, hidle, hquorum⟩
    exact update_of_alreadyTrusted hactive htrusted
  | confirmed status verdict => exact nomatch h
  | conflict status verdict => exact nomatch h
  | refused status verdict other => exact nomatch h

/-! ### Onward -/

/-- A client went on to another one: the voters are the same, the latest height is not lower, and if
it was frozen, it is. -/
structure Onward (c c' : Client) : Prop where
  sameVoters : SameVoters c.state c'.state
  latestHeight_le : c.state.latestHeight ≤ c'.state.latestHeight
  frozen : c.state.isFrozen → c'.state.isFrozen

private theorem onward_refl (c : Client) : Onward c c := ⟨⟨rfl, rfl, rfl⟩, UInt64.le_refl _, id⟩

private theorem onward_freeze (c : Client) (height : UInt64) : Onward c (c.freeze height) := by
  cases hstatus : c.state.status with
  | active =>
    rw [freeze_of_active hstatus]
    exact ⟨⟨rfl, rfl, rfl⟩, UInt64.le_refl _, fun _ => rfl⟩
  | frozen height' =>
    rw [freeze_of_frozen hstatus]
    exact onward_refl c

/-- Whatever a batch does, it leads a client onward. -/
theorem UpdateStep.onward {out : Client × Except ClientError UpdateOutcome}
    (hstep : UpdateStep recover c batch out) : Onward c out.1 :=
  hstep.preserves (onward_refl c) (onward_freeze c)
    fun _ fresh => ⟨⟨rfl, rfl, rfl⟩, UInt64.le_of_lt fresh, id⟩

/-- A settled batch stays settled. -/
theorem Settled.onward (h : Settled recover batch c) (hon : Onward c c') :
    Settled recover batch c' := by
  rcases h with hfrozen | hidle
  · exact .inl (hon.frozen hfrozen)
  · refine .inr fun height root hfresh hquorum => ?_
    have hfresh' := UInt64.lt_of_le_of_lt hon.latestHeight_le hfresh
    exact hidle height root hfresh' (hon.sameVoters.hasQuorum_iff.1 hquorum)

/-! ### Runs -/

/-- Operations that leave attestors and policy of a state as they are, without a recovery. -/
def Operation.KeepsVoters (s : ClientState) : Operation → Prop
  | .update _ => True
  | .freeze _ => True
  | .updateAttestors attestors policy => attestors = s.attestors ∧ policy = s.policy
  | .recover _ => False

/-- An operation that keeps the voters leads a client onward. -/
theorem Step.onward {out : Client × Except ClientError (Option UpdateOutcome)}
    (hstep : Step recover c op out) (h : SameVoters s c.state) (hop : op.KeepsVoters s) :
    Onward c out.1 := by
  cases hstep with
  | updated step => exact step.onward
  | frozen => exact onward_freeze c _
  | replaced valid =>
    obtain ⟨rfl, rfl⟩ := hop
    exact ⟨⟨rfl, h.attestors.symm, h.policy.symm⟩, UInt64.le_refl _, id⟩
  | recovered frozen valid substitute => exact absurd hop id
  | refused other => exact onward_refl c

variable (recover) in
/-- Operations that keep the voters, one by one, keep them over a run. -/
private theorem sameVoters_afterOperations (hops : ∀ op ∈ ops, op.KeepsVoters c.state) :
    SameVoters c.state (c.afterOperations recover ops).state := by
  refine afterOperations_induction (motive := fun c' => SameVoters c.state c'.state)
    ⟨rfl, rfl, rfl⟩ fun c' op out hmem hstep hvoters => ?_
  exact hvoters.trans (hstep.onward hvoters (hops op hmem)).sameVoters

/-- Every batch of a run is settled at its end. -/
theorem settled_afterOperations (hops : ∀ op ∈ ops, op.KeepsVoters c.state)
    (hbatch : .update batch ∈ ops) : Settled recover batch (c.afterOperations recover ops) := by
  induction ops using List.reverseRecOn with
  | nil => exact nomatch hbatch
  | append_singleton ops op ih =>
    have hkept : ∀ op ∈ ops, op.KeepsVoters c.state :=
      fun op' hmem => hops op' (List.mem_append_left _ hmem)
    rw [afterOperations_append]
    rcases List.mem_append.1 hbatch with hmem | hmem
    · have hvoters := sameVoters_afterOperations recover hkept
      have hlast : op.KeepsVoters c.state := hops op (by simp)
      exact (ih hkept hmem).onward ((step_perform recover _ op).onward hvoters hlast)
    · obtain rfl := List.mem_singleton.1 hmem
      exact (updateStep_update recover _ batch).settled

/-- **Batches cannot be replayed.** At any point of a run that keeps the voters, a batch of the run
that is submitted again changes nothing, whatever came of it the first time; and a batch that is
adopted at that point is confirmed, without a change, if it is submitted once more right away. -/
theorem resubmission_changes_nothing (hops : ∀ op ∈ ops, op.KeepsVoters c.state) :
    (∀ batch, .update batch ∈ ops →
      ((c.afterOperations recover ops).update recover batch).1 = c.afterOperations recover ops) ∧
    ∀ batch height root,
      ((c.afterOperations recover ops).update recover batch).2 = .ok (.updated height root) →
        ((c.afterOperations recover ops).update recover batch).1.update recover batch =
          (((c.afterOperations recover ops).update recover batch).1, .ok .unchanged) :=
  ⟨fun _ hbatch => (settled_afterOperations hops hbatch).update_eq,
    fun _ _ _ hupdated => update_of_updated hupdated⟩

namespace ThreeVoters

/-- The voters settle their dispute, Eve forges, Ann and Bob state the root at height fourteen. -/
def quarrel : List Operation :=
  [.update dispute, .update forgery,
    .update [claim "bob" 2 14 (trueRoot 14), claim "ann" 1 14 (trueRoot 14)]]

end ThreeVoters

open ThreeVoters in
/-- The old dispute comes too late for the client that it once moved. -/
theorem resubmission_changes_nothing_quarrel :
    (∀ op ∈ quarrel, op.KeepsVoters start) ∧
    (afterOperations readSigner ⟨start, .empty⟩ quarrel).state.latestHeight = 14 ∧
    ((afterOperations readSigner ⟨start, .empty⟩ quarrel).update readSigner dispute).1 =
      afterOperations readSigner ⟨start, .empty⟩ quarrel := by
  have hops : ∀ op ∈ quarrel, op.KeepsVoters start := by
    simp [quarrel, Operation.KeepsVoters]
  have hheight : (afterOperations readSigner ⟨start, .empty⟩ quarrel).state.latestHeight = 14 := by
    decide +kernel
  exact ⟨hops, hheight,
    (resubmission_changes_nothing (c := ⟨start, .empty⟩) hops).1 dispute (by simp [quarrel])⟩

end Client

end Attestation
