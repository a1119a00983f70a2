import Attestation.Proofs.Client.Update

/-!
# The life of a client

A client is created, and then updated, frozen, given other attestors and recovered in any order.
`Step` says all that one such operation can do, success and failure alike, and is the only place
where the operations are opened; runs of operations are folds of `perform`, and what every step
keeps is kept by every run (`afterOperations_induction`).
-/

namespace Attestation

/-! ### Valid policies and states -/

/-- A policy fits a set exactly if its threshold is positive and the exact weight of the whole set
reaches it. -/
theorem QuorumPolicy.validate_eq_ok_iff {p : QuorumPolicy} {set : AttestorSet} :
    p.validate set = .ok () ↔
      0 < p.threshold.toNat ∧ p.threshold.toNat ≤ p.exactWeight set.members := by
  have hmet : p.threshold ≤ p.totalWeight set ↔
      p.threshold.toNat ≤ p.exactWeight set.members := by
    rw [← isMet_weightOfAll, isMet, decide_eq_true_iff, totalWeight]
  have hzero : p.threshold = 0 ↔ ¬ 0 < p.threshold.toNat := by
    rw [← UInt64.toNat_inj, UInt64.toNat_zero, Nat.not_lt, Nat.le_zero]
  rw [validate, ← hmet, ← UInt64.not_lt]
  split_ifs with hthreshold hunreachable
  · exact iff_of_false (by simp) fun h => hzero.1 hthreshold h.1
  · exact iff_of_false (by simp) fun h => h.2 hunreachable
  · exact iff_of_true rfl ⟨not_not.1 fun h => hthreshold (hzero.2 h), hunreachable⟩

/-- A state is valid exactly if its ids are not empty, its client id holds no separator and its
policy fits its attestors. -/
theorem ClientState.validate_eq_ok_iff {s : ClientState} :
    s.validate = .ok () ↔ (s.clientId ≠ "" ∧ s.chainId ≠ "") ∧ '/' ∉ s.clientId.toList ∧
      s.policy.validate s.attestors = .ok () := by
  rw [validate]
  split_ifs with hempty hseparator
  · exact iff_of_false (fun h => nomatch h) fun h => hempty.elim h.1.1 h.1.2
  · exact iff_of_false (fun h => nomatch h) fun h => h.2.1 (by simpa using hseparator)
  · rw [not_or] at hempty
    have hno : '/' ∉ s.clientId.toList := by simpa using hseparator
    cases hpolicy : s.policy.validate s.attestors with
    | ok valid => exact iff_of_true rfl ⟨hempty, hno, rfl⟩
    | error cause => exact iff_of_false (fun h => nomatch h) fun h => nomatch h.2.2

namespace Client

variable {recover : Recovery} {c : Client} {s : ClientState} {height : UInt64}

/-! ### The operations beside updates -/

/-- The client under other attestors. -/
def withVoters (c : Client) (attestors : AttestorSet) (policy : QuorumPolicy) : Client :=
  { c with state := { c.state with attestors, policy } }

/-- The client that goes on from a substitute state, with what is left of its history. -/
def restart (c : Client) (substitute : ClientState) : Client :=
  ⟨substitute, substitute.prune (recoveredHistory c.history substitute)⟩

/-- Attestors are replaced exactly if the policy fits them, and nothing else changes. -/
theorem updateAttestors_eq_ok_iff {attestors : AttestorSet} {policy : QuorumPolicy} {c' : Client} :
    c.updateAttestors attestors policy = .ok c' ↔
      policy.validate attestors = .ok () ∧ c' = c.withVoters attestors policy := by
  rw [updateAttestors]
  cases policy.validate attestors with
  | ok valid => exact ⟨fun h => ⟨rfl, (Except.ok.inj h).symm⟩, fun h => h.2 ▸ rfl⟩
  | error cause => exact iff_of_false (fun h => nomatch h) fun h => nomatch h.1

/-- A frozen client recovers exactly with a valid, active substitute for its client and chain. -/
theorem recover_eq_ok_iff {c' : Client} :
    c.recover s = .ok c' ↔ c.state.isFrozen ∧ s.validate = .ok () ∧
      (s.isFrozen = false ∧ s.clientId = c.state.clientId ∧ s.chainId = c.state.chainId) ∧
        c' = c.restart s := by
  rw [Client.recover]
  cases hfrozen : c.state.isFrozen with
  | false => exact iff_of_false (fun h => nomatch h) fun h => nomatch h.1
  | true =>
    cases hvalid : s.validate with
    | error cause => exact iff_of_false (fun h => nomatch h) fun h => nomatch h.2.1
    | ok valid =>
      by_cases hbad : s.isFrozen ∨ s.clientId ≠ c.state.clientId ∨ s.chainId ≠ c.state.chainId
      · refine iff_of_false (fun h => ?_) fun ⟨_, _, ⟨hactive, hid, hchain⟩, _⟩ => ?_
        · simp [hbad, Except.mapError, bind, Except.bind, throw, throwThe,
            MonadExceptOf.throw] at h
        · rcases hbad with hbad | hbad | hbad
          · exact absurd (hactive.symm.trans hbad) Bool.false_ne_true
          · exact hbad hid
          · exact hbad hchain
      · have hgood := hbad
        rw [not_or, not_or, not_not, not_not, Bool.not_eq_true] at hgood
        simp [hgood, Except.mapError, bind, Except.bind, pure, Except.pure, restart, eq_comm]

/-- What is kept for a height after a recovery: at the new latest height a state with the new root,
below it what was kept before. -/
theorem get?_recoveredHistory {history : History} :
    (recoveredHistory history s).get? height =
      if 0 < s.latestHeight ∧ height = s.latestHeight then
        some { (history.get? s.latestHeight).getD ⟨s.latestHeight, s.latestRoot, 0⟩ with
          root := s.latestRoot }
      else if height ≤ s.latestHeight then history.get? height else none := by
  rw [recoveredHistory]
  by_cases hpos : 0 < s.latestHeight
  · simp [hpos]
  · simp [hpos]

/-! ### Operations -/

/-- What can be done to a client after its creation. -/
inductive Operation where
  /-- A batch of claims is submitted. -/
  | update (batch : List Claim)
  /-- The client is frozen at a height. -/
  | freeze (height : UInt64)
  /-- Attestors and policy are replaced. -/
  | updateAttestors (attestors : AttestorSet) (policy : QuorumPolicy)
  /-- The client is recovered with a substitute state. -/
  | recover (substitute : ClientState)

/-- Performs an operation. Beside the client stands what an update came to, or why the operation
failed. -/
def perform (recover : Recovery) (c : Client) :
    Operation → Client × Except ClientError (Option UpdateOutcome)
  | .update batch => ((c.update recover batch).1, (c.update recover batch).2.map some)
  | .freeze height => (c.freeze height, .ok none)
  | .updateAttestors attestors policy =>
    match c.updateAttestors attestors policy with
    | .ok c' => (c', .ok none)
    | .error cause => (c, .error cause)
  | .recover substitute =>
    match c.recover substitute with
    | .ok c' => (c', .ok none)
    | .error cause => (c, .error cause)

/-- What an operation does to a client. -/
inductive Step (recover : Recovery) (c : Client) :
    Operation → Client × Except ClientError (Option UpdateOutcome) → Prop
  /-- A batch does what an update does. -/
  | updated {batch : List Claim} {out : Client × Except ClientError UpdateOutcome}
      (step : UpdateStep recover c batch out) :
      Step recover c (.update batch) (out.1, out.2.map some)
  /-- A freeze always succeeds. -/
  | frozen {height : UInt64} : Step recover c (.freeze height) (c.freeze height, .ok none)
  /-- Attestors are replaced if the policy fits them. -/
  | replaced {attestors : AttestorSet} {policy : QuorumPolicy}
      (valid : policy.validate attestors = .ok ()) :
      Step recover c (.updateAttestors attestors policy)
        (c.withVoters attestors policy, .ok none)
  /-- A frozen client goes on from a valid, active substitute for the same client and chain. -/
  | recovered {s : ClientState} (frozen : c.state.isFrozen) (valid : s.validate = .ok ())
      (substitute : s.isFrozen = false ∧ s.clientId = c.state.clientId ∧
        s.chainId = c.state.chainId) :
      Step recover c (.recover s) (c.restart s, .ok none)
  /-- An operation that fails leaves the client as it is; failing updates are told above. -/
  | refused {op : Operation} {cause : ClientError} (other : ∀ batch, op ≠ .update batch) :
      Step recover c op (c, .error cause)

/-- Every operation makes one of the steps. -/
theorem step_perform (recover : Recovery) (c : Client) (op : Operation) :
    Step recover c op (c.perform recover op) := by
  cases op with
  | update batch => exact .updated (updateStep_update recover c batch)
  | freeze height => exact .frozen
  | updateAttestors attestors policy =>
    rw [perform]
    cases hresult : c.updateAttestors attestors policy with
    | ok c' =>
      obtain ⟨hvalid, rfl⟩ := updateAttestors_eq_ok_iff.1 hresult
      exact .replaced hvalid
    | error cause => exact .refused (fun batch h => nomatch h)
  | recover substitute =>
    rw [perform]
    cases hresult : c.recover substitute with
    | ok c' =>
      obtain ⟨hfrozen, hvalid, hsubstitute, rfl⟩ := recover_eq_ok_iff.1 hresult
      exact .recovered hfrozen hvalid hsubstitute
    | error cause => exact .refused (fun batch h => nomatch h)

/-- What holds of a client and of it after each change that an operation can make to it holds after
the operation. -/
theorem Step.preserves {motive : Client → Prop} {op : Operation}
    {out : Client × Except ClientError (Option UpdateOutcome)} (h : Step recover c op out)
    (same : motive c) (freeze : ∀ height, motive (c.freeze height))
    (advance : ∀ u : AcceptedUpdate, c.state.latestHeight < u.height → motive (c.advance u))
    (withVoters : ∀ attestors policy, policy.validate attestors = .ok () →
      motive (c.withVoters attestors policy))
    (restart : ∀ s, op = .recover s → s.validate = .ok () → motive (c.restart s)) :
    motive out.1 := by
  cases h with
  | updated step => exact step.preserves same freeze advance
  | frozen => exact freeze _
  | replaced valid => exact withVoters _ _ valid
  | recovered frozen valid substitute => exact restart _ rfl valid
  | refused other => exact same

/-! ### Runs -/

/-- The client after a sequence of operations. -/
def afterOperations (recover : Recovery) (c : Client) (ops : List Operation) : Client :=
  ops.foldl (fun c op => (c.perform recover op).1) c

/-- What the operations of a run come to, one after the other. -/
def outcomes (recover : Recovery) :
    Client → List Operation → List (Except ClientError (Option UpdateOutcome))
  | _, [] => []
  | c, op :: ops => (c.perform recover op).2 :: outcomes recover (c.perform recover op).1 ops

/-- A run of operations can be cut anywhere. -/
theorem afterOperations_append {before after : List Operation} :
    c.afterOperations recover (before ++ after) =
      (c.afterOperations recover before).afterOperations recover after :=
  List.foldl_append ..

/-- What holds of a client and is kept by each step of a run holds at its end. -/
theorem afterOperations_induction {motive : Client → Prop} {ops : List Operation}
    (start : motive c)
    (step : ∀ c op out, op ∈ ops → Step recover c op out → motive c → motive out.1) :
    motive (c.afterOperations recover ops) := by
  induction ops generalizing c with
  | nil => exact start
  | cons op ops ih =>
    refine ih (step c op _ List.mem_cons_self (step_perform recover c op) start) ?_
    exact fun c' op' out hmem => step c' op' out (List.mem_cons_of_mem op hmem)

end Client

end Attestation
