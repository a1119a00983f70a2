import Attestation.Proofs.Client.InPlace
import Attestation.Proofs.Client.Membership
import Attestation.Proofs.Except

/-!
# Freezing

A client that is frozen stays so, at the same height, until a recovery succeeds. `FreezeRules` says
what one operation may do to the status of a client and what a client that is frozen answers, and
that an operation that fails changes nothing, unless it is a batch that proves a conflict, which
changes nothing but the status; this holds even if the client is changed in place, where a failure
could leave a change half made. The rules hold of every client, however it came about; for a run
they mean that between two points at which the client is and is not frozen at a height there is an
operation that froze it, or one that recovered it.
-/

namespace Attestation

namespace Client

variable {recover : Recovery} {hash : Bytes → Digest} {c : Client} {op : Operation}
  {ops : List Operation} {height : UInt64}

/-! ### Into the frozen state and out of it -/

/-- An operation freezes an active client at a height if it is a freeze at that height or a batch
that proves a conflict there. -/
def Freezes (recover : Recovery) (c : Client) (op : Operation) (height : UInt64) : Prop :=
  op = .freeze height ∨ (∃ batch, op = .update batch) ∧
    (c.perform recover op).2 = .error (.conflictingQuorum height)

/-- An operation recovers a client if it is a recovery that succeeds. -/
def Recovers (recover : Recovery) (c : Client) (op : Operation) : Prop :=
  ∃ substitute, op = .recover substitute ∧ (c.perform recover op).2 = .ok none

/-- What operations do to the status of a client, and what a frozen client answers. -/
structure FreezeRules (recover : Recovery) (hash : Bytes → Digest) (c : Client) : Prop where
  /-- Done in place, check by check and change by change, an operation comes to the same. -/
  inPlace : ∀ op, (op.inPlace recover).runOn c = c.perform recover op
  /-- An active client is frozen by a freeze or a conflict and by nothing else. -/
  frozen_iff : c.state.status = .active → ∀ op height,
    (c.perform recover op).1.state.status = .frozen height ↔ c.Freezes recover op height
  /-- A frozen client refuses batches. -/
  update : ∀ height, c.state.status = .frozen height →
    ∀ batch, c.update recover batch = (c, .error (.clientFrozen height))
  /-- A frozen client refuses queries for roots. -/
  membership : ∀ height, c.state.status = .frozen height → ∀ queried root proof,
    c.verifyMembership hash queried root proof = .error (.clientFrozen height)
  /-- A frozen client accepts no packet. -/
  packet : ∀ height, c.state.status = .frozen height →
    ∀ queried packet proof, c.verifyPacket hash queried packet proof ≠ .ok ()
  /-- A frozen client stays frozen at its height, unless it is recovered. -/
  stays : ∀ height, c.state.status = .frozen height → ∀ op, ¬ c.Recovers recover op →
    (c.perform recover op).1.state.status = .frozen height
  /-- A recovery makes the client active again under the same ids. -/
  recovered : ∀ op, c.Recovers recover op → (c.perform recover op).1.state.status = .active ∧
    (c.perform recover op).1.state.clientId = c.state.clientId ∧
    (c.perform recover op).1.state.chainId = c.state.chainId
  /-- An operation that fails leaves the client as it is, unless a batch proves a conflict. -/
  failed : ∀ op cause, (c.perform recover op).2 = .error cause →
    (c.perform recover op).1 = c ∨
      (∃ batch, op = .update batch) ∧ ∃ height, cause = .conflictingQuorum height
  /-- A conflict changes nothing but the status. -/
  conflict : ∀ batch height, (c.update recover batch).2 = .error (.conflictingQuorum height) →
    (c.update recover batch).1 = { c with state := { c.state with status := .frozen height } }
  /-- A confirmation changes nothing. -/
  unchanged : ∀ batch, (c.update recover batch).2 = .ok .unchanged →
    (c.update recover batch).1 = c

/-! ### One operation -/

theorem freeze_of_active (h : c.state.status = .active) :
    c.freeze height = { c with state := { c.state with status := .frozen height } } := by
  rw [freeze, ClientState.freeze, ClientState.isFrozen, ClientState.frozenAt?, h]
  rfl

/-- A client that is frozen stays frozen at its height. -/
theorem freeze_of_frozen (h : c.state.status = .frozen height) (other : UInt64) :
    c.freeze other = c := by
  rw [freeze, ClientState.freeze, ClientState.isFrozen, ClientState.frozenAt?, h]
  rfl

theorem isFrozen_iff {s : ClientState} : s.isFrozen ↔ ∃ height, s.status = .frozen height := by
  rw [ClientState.isFrozen, ClientState.frozenAt?]
  cases s.status <;> simp

theorem status_eq_active_iff {s : ClientState} : s.status = .active ↔ s.isFrozen = false := by
  rw [ClientState.isFrozen, ClientState.frozenAt?]
  cases s.status <;> simp

/-- A frozen client refuses every batch. -/
theorem update_of_frozen (h : c.state.status = .frozen height) (batch : List Claim) :
    c.update recover batch = (c, .error (.clientFrozen height)) := by
  rw [Client.update, ClientState.ensureActive, h]

/-- What an update leaves behind, by what it answers. -/
theorem UpdateStep.freezeRules {batch : List Claim}
    {out : Client × Except ClientError UpdateOutcome} (hstep : UpdateStep recover c batch out) :
    (c.state.status = .active → ∀ height, out.1.state.status = .frozen height ↔
      out.2 = .error (.conflictingQuorum height)) ∧
    (∀ cause, out.2 = .error cause → (∀ height, cause ≠ .conflictingQuorum height) → out.1 = c) ∧
    (∀ height, out.2 = .error (.conflictingQuorum height) →
      out.1 = { c with state := { c.state with status := .frozen height } }) ∧
    (out.2 = .ok .unchanged → out.1 = c) := by
  -- by the status before the update and by its answer only one way to step is left for each part
  cases hstep with
  | frozen status =>
    refine ⟨fun hactive => ?_, fun _ _ _ => rfl, fun _ h => ?_, fun _ => rfl⟩
    · exact nomatch hactive.symm.trans status
    · exact nomatch h
  | updated status verdict fresh =>
    refine ⟨fun _ height => ?_, fun _ h => ?_, fun _ h => ?_, fun h => ?_⟩
    · exact iff_of_false (fun h => nomatch status.symm.trans h) fun h => nomatch h
    · exact nomatch h
    · exact nomatch h
    · exact nomatch h
  | confirmed status verdict =>
    refine ⟨fun _ height => ?_, fun _ _ _ => rfl, fun _ h => ?_, fun _ => rfl⟩
    · exact iff_of_false (fun h => nomatch status.symm.trans h) fun h => nomatch h
    · exact nomatch h
  | conflict status verdict =>
    rw [freeze_of_active status]
    refine ⟨fun _ height => ?_, fun _ h other => ?_, fun _ h => ?_, fun h => ?_⟩
    · constructor
      · intro h
        rw [Status.frozen.inj h]
      · intro h
        rw [ClientError.conflictingQuorum.inj (Except.error.inj h)]
    · exact absurd (Except.error.inj h).symm (other _)
    · rw [ClientError.conflictingQuorum.inj (Except.error.inj h)]
    · exact nomatch h
  | refused status verdict other =>
    refine ⟨fun _ height => ?_, fun _ _ _ => rfl, fun height h => ?_, fun _ => rfl⟩
    · exact iff_of_false (fun h => nomatch status.symm.trans h)
        fun h => other height (Except.error.inj h)
    · exact absurd (Except.error.inj h) (other height)

/-- Other attestors do not touch the status, accepted or refused. -/
private theorem status_perform_updateAttestors (attestors : AttestorSet) (policy : QuorumPolicy) :
    (c.perform recover (.updateAttestors attestors policy)).1.state.status = c.state.status := by
  have hstep := step_perform recover c (.updateAttestors attestors policy)
  generalize c.perform recover (.updateAttestors attestors policy) = out at hstep ⊢
  cases hstep with
  | replaced valid => rfl
  | refused other => rfl

/-- A recovery succeeds on a frozen client only, which is then active under the same ids, or it
fails and changes nothing. -/
private theorem perform_recover_cases (recover : Recovery) (c : Client) (substitute : ClientState) :
    (c.perform recover (.recover substitute)).2 = .ok none ∧ c.state.isFrozen ∧
        (c.perform recover (.recover substitute)).1.state.status = .active ∧
        (c.perform recover (.recover substitute)).1.state.clientId = c.state.clientId ∧
        (c.perform recover (.recover substitute)).1.state.chainId = c.state.chainId ∨
      (∃ cause, (c.perform recover (.recover substitute)).2 = .error cause) ∧
        (c.perform recover (.recover substitute)).1 = c := by
  have hstep := step_perform recover c (.recover substitute)
  generalize c.perform recover (.recover substitute) = out at hstep ⊢
  cases hstep with
  | recovered frozen valid hsubstitute =>
    obtain ⟨hactive, hid, hchain⟩ := hsubstitute
    exact .inl ⟨rfl, frozen, status_eq_active_iff.2 hactive, hid, hchain⟩
  | refused other => exact .inr ⟨⟨_, rfl⟩, rfl⟩

/-- What becomes of the status of an active client. -/
theorem frozen_iff_freezes (h : c.state.status = .active) (op : Operation) (height : UInt64) :
    (c.perform recover op).1.state.status = .frozen height ↔ c.Freezes recover op height := by
  rw [Freezes]
  cases op with
  | update batch =>
    have hrules := (updateStep_update recover c batch).freezeRules.1 h height
    rw [perform, hrules]
    cases (c.update recover batch).2 with
    | ok outcome => simp [Except.map]
    | error cause => simp [Except.map]
  | freeze other =>
    rw [perform, freeze_of_active h]
    simp
  | updateAttestors attestors policy =>
    rw [status_perform_updateAttestors, h]
    simp
  | recover substitute =>
    have hactive : (c.perform recover (.recover substitute)).1.state.status = .active := by
      rcases perform_recover_cases recover c substitute with ⟨-, -, hactive, -⟩ | ⟨-, hsame⟩
      · exact hactive
      · rw [hsame, h]
    rw [hactive]
    simp

/-- What becomes of the status of a frozen client. -/
private theorem frozen_of_frozen (h : c.state.status = .frozen height)
    (hop : ¬ c.Recovers recover op) :
    (c.perform recover op).1.state.status = .frozen height := by
  cases op with
  | update batch =>
    rw [perform, update_of_frozen h]
    exact h
  | freeze other =>
    rw [perform, freeze_of_frozen h]
    exact h
  | updateAttestors attestors policy => exact (status_perform_updateAttestors _ _).trans h
  | recover substitute =>
    rcases perform_recover_cases recover c substitute with ⟨hok, -⟩ | ⟨-, hsame⟩
    · exact absurd ⟨substitute, rfl, hok⟩ hop
    · rw [hsame]
      exact h

/-- An operation that fails. -/
theorem perform_of_error {cause : ClientError} (h : (c.perform recover op).2 = .error cause) :
    (c.perform recover op).1 = c ∨
      (∃ batch, op = .update batch) ∧ ∃ height, cause = .conflictingQuorum height := by
  cases op with
  | update batch =>
    have hrules := (updateStep_update recover c batch).freezeRules.2.1 cause (map_eq_error h)
    by_cases hconflict : ∃ height, cause = .conflictingQuorum height
    · exact .inr ⟨⟨batch, rfl⟩, hconflict⟩
    · exact .inl (hrules fun height he => hconflict ⟨height, he⟩)
  | freeze other => exact nomatch h
  | updateAttestors attestors policy =>
    have hstep := step_perform recover c (.updateAttestors attestors policy)
    generalize c.perform recover (.updateAttestors attestors policy) = out at hstep h ⊢
    cases hstep with
    | replaced valid => exact nomatch h
    | refused other => exact .inl rfl
  | recover substitute =>
    rcases perform_recover_cases recover c substitute with ⟨hok, -⟩ | ⟨-, hsame⟩
    · exact nomatch hok.symm.trans h
    · exact .inl hsame

/-- A recovery makes the client active under the ids it had. -/
private theorem active_of_recovers (h : c.Recovers recover op) :
    (c.perform recover op).1.state.status = .active ∧
      (c.perform recover op).1.state.clientId = c.state.clientId ∧
      (c.perform recover op).1.state.chainId = c.state.chainId := by
  obtain ⟨substitute, rfl, hok⟩ := h
  rcases perform_recover_cases recover c substitute with ⟨-, -, hafter⟩ | ⟨⟨cause, herror⟩, -⟩
  · exact hafter
  · exact nomatch hok.symm.trans herror

/-- Every client obeys the rules. -/
theorem freezeRules (recover : Recovery) (hash : Bytes → Digest) (c : Client) :
    c.FreezeRules recover hash where
  inPlace := runOn_inPlace recover c
  frozen_iff := frozen_iff_freezes
  update _ := update_of_frozen
  membership _ status _ _ _ := ClientState.verifyMembership_of_frozen status
  packet _ status _ _ _ := ClientState.verifyPacket_of_frozen status
  stays _ h _ := frozen_of_frozen h
  recovered _ := active_of_recovers
  failed _ _ := perform_of_error
  conflict batch := (updateStep_update recover c batch).freezeRules.2.2.1
  unchanged batch := (updateStep_update recover c batch).freezeRules.2.2.2

/-! ### Runs -/

/-- A client that is frozen at a height at the start of a run is so at its end, unless some
operation of the run recovers it, and before that it is frozen at that height. -/
theorem frozen_or_recovered (h : c.state.status = .frozen height) (ops : List Operation) :
    (c.afterOperations recover ops).state.status = .frozen height ∨
      ∃ before op after, ops = before ++ op :: after ∧
        (c.afterOperations recover before).state.status = .frozen height ∧
        (c.afterOperations recover before).Recovers recover op := by
  induction ops using List.reverseRecOn with
  | nil => exact .inl h
  | append_singleton ops op ih =>
    rcases ih with hfrozen | ⟨before, op', after, rfl, hfrozen, hrecovers⟩
    · by_cases hop : (c.afterOperations recover ops).Recovers recover op
      · exact .inr ⟨ops, op, [], rfl, hfrozen, hop⟩
      · rw [afterOperations_append]
        exact .inl (frozen_of_frozen hfrozen hop)
    · refine .inr ⟨before, op', after ++ [op], ?_, hfrozen, hrecovers⟩
      rw [List.append_assoc, List.cons_append]

/-- A client that is active at the start of a run and frozen at a height at its end was frozen at
that height by some operation of the run, and not recovered since. -/
theorem exists_freezes (h : c.state.status = .active) (ops : List Operation)
    (hfrozen : (c.afterOperations recover ops).state.status = .frozen height) :
    ∃ before op after, ops = before ++ op :: after ∧
      (c.afterOperations recover before).state.status = .active ∧
      (c.afterOperations recover before).Freezes recover op height ∧
      ∀ part, part <+: after →
        (c.afterOperations recover (before ++ op :: part)).state.status = .frozen height := by
  induction ops using List.reverseRecOn with
  | nil => exact nomatch h.symm.trans hfrozen
  | append_singleton ops op ih =>
    have hlast := hfrozen
    rw [afterOperations_append] at hlast
    cases hstatus : (c.afterOperations recover ops).state.status with
    | active =>
      -- the last operation is the one that froze the client
      refine ⟨ops, op, [], rfl, hstatus, (frozen_iff_freezes hstatus op height).1 hlast, ?_⟩
      intro part hpart
      rw [List.prefix_nil.1 hpart]
      exact hfrozen
    | frozen height' =>
      have hstays : ¬ (c.afterOperations recover ops).Recovers recover op := fun hop =>
        nomatch (active_of_recovers hop).1.symm.trans hlast
      obtain rfl : height' = height :=
        Status.frozen.inj ((frozen_of_frozen hstatus hstays).symm.trans hlast)
      obtain ⟨before, op', after, rfl, hactive, hfreezes, hparts⟩ := ih hstatus
      refine ⟨before, op', after ++ [op], ?_, hactive, hfreezes, fun part hpart => ?_⟩
      · rw [List.append_assoc, List.cons_append]
      · rcases List.prefix_concat_iff.1 hpart with rfl | hpart
        · rw [← List.cons_append, ← List.append_assoc]
          exact hfrozen
        · exact hparts part hpart

/-- **Freezing is permanent and failures are atomic.** At every point of a run, whatever operations
it is made of, the client obeys the rules about freezing. So a client that is frozen at a height is
frozen at that height until an operation recovers it, and one that went from active to frozen at a
height was frozen by a freeze or a conflict at that height and at no point since was anything
else. -/
theorem frozen_until_recovered (recover : Recovery) (hash : Bytes → Digest) (c : Client)
    (ops : List Operation) :
    (c.afterOperations recover ops).FreezeRules recover hash ∧
    (∀ height, c.state.status = .frozen height →
      (c.afterOperations recover ops).state.status = .frozen height ∨
        ∃ before op after, ops = before ++ op :: after ∧
          (c.afterOperations recover before).state.status = .frozen height ∧
          (c.afterOperations recover before).Recovers recover op) ∧
    ∀ height, c.state.status = .active →
      (c.afterOperations recover ops).state.status = .frozen height →
        ∃ before op after, ops = before ++ op :: after ∧
          (c.afterOperations recover before).state.status = .active ∧
          (c.afterOperations recover before).Freezes recover op height ∧
          ∀ part, part <+: after →
            (c.afterOperations recover (before ++ op :: part)).state.status = .frozen height :=
  ⟨freezeRules recover hash _, fun _ h => frozen_or_recovered h ops,
    fun _ h hfrozen => exists_freezes h ops hfrozen⟩

end Client

end Attestation
