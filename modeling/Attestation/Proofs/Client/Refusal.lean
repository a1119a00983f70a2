import Attestation.Proofs.Client.SameClaims

/-!
# Causes of a refusal

A batch that is neither accepted nor a confirmation nor in conflict is refused, and the cause says
what the batch lacks. The tally decides by its counters, in a fixed order; `Refused` says the same
of the claims themselves, each cause with what excludes those above it. The weight that is reported
for a missing quorum is the greatest one behind a root above the trusted height
(`Tally.isGreatest_bestWeight`), and since no such root has a quorum, it is below the threshold. The
last branch of `Tally.refusal`, which asks to try again, is never taken: a claim in the name of a
registered attestor is for another chain, forged or usable.
-/

namespace Attestation

variable {recover : Recovery} {s : ClientState} {batch : List Claim} {cause : ClientError}

/-! ### The weights above the trusted height -/

variable (recover s batch) in
/-- The weights behind the roots above the trusted height that somebody supports, each cut off at
the greatest word. -/
def freshWeights : Set Nat :=
  {w | ∃ height root, s.latestHeight < height ∧ supporters recover s batch height root ≠ [] ∧
    w = min (support recover s batch height root) (2 ^ 64 - 1)}

/-- The weights of the votes above the trusted height are those of the roots there. -/
private theorem mem_weights_iff {w : UInt64} :
    w ∈ (Tally.ofBatch recover s batch).freshVotes.values.map s.weigh ↔
      w.toNat ∈ freshWeights recover s batch := by
  have hweight : ∀ height root, s.policy.weightOfAll (supporters recover s batch height root) = w ↔
      w.toNat = min (support recover s batch height root) (2 ^ 64 - 1) := by
    intro height root
    rw [← UInt64.toNat_inj, QuorumPolicy.toNat_weightOfAll, eq_comm]
    rfl
  rw [List.mem_map, votes_ofBatch.1]
  constructor
  · rintro ⟨votes, hvotes, hweigh⟩
    obtain ⟨k, hget⟩ := OrderedMap.mem_values.1 hvotes
    obtain ⟨⟨-, hfresh⟩, hne, rfl⟩ := get?_votesWhere_eq_some_iff.1 hget
    rw [weigh_ofClaims, hweight] at hweigh
    exact ⟨k.height, k.root, hfresh, hne, hweigh⟩
  · rintro ⟨height, root, hfresh, hne, hw⟩
    have hget := get?_votesWhere_eq_some_iff (k := ⟨s.chainId, height, root⟩).2
      ⟨⟨rfl, hfresh⟩, hne, rfl⟩
    exact ⟨_, OrderedMap.mem_values.2 ⟨_, hget⟩, weigh_ofClaims.trans ((hweight height root).2 hw)⟩

/-- With a usable claim above the trusted height, the best weight is the greatest one there. -/
theorem Tally.isGreatest_bestWeight
    (h : ∃ c ∈ batch, c.Usable recover s ∧ s.latestHeight < c.snapshot.height) :
    IsGreatest (freshWeights recover s batch) ((ofBatch recover s batch).bestWeight s).toNat := by
  obtain ⟨c, hc, husable, hfresh⟩ := h
  have hsupporting : c ∈ supporting recover s batch c.snapshot.height c.snapshot.root :=
    mem_supporting.2 ⟨hc, husable, rfl, rfl⟩
  have hne : supporters recover s batch c.snapshot.height c.snapshot.root ≠ [] := by
    rw [ne_eq, supporters_eq_nil_iff]
    exact List.ne_nil_of_mem hsupporting
  have hlisted : s.policy.weightOfAll
      (supporters recover s batch c.snapshot.height c.snapshot.root) ∈
      (ofBatch recover s batch).freshVotes.values.map s.weigh :=
    mem_weights_iff.2 ⟨_, _, hfresh, hne, QuorumPolicy.toNat_weightOfAll _ _⟩
  obtain ⟨hmem, hgreatest⟩ := Word.isGreatest_maximum (List.ne_nil_of_mem hlisted)
  refine ⟨mem_weights_iff.1 hmem, ?_⟩
  intro w hw
  -- every weight is that of some votes, and so a word
  obtain ⟨height, root, hfor⟩ := id hw
  have hword : (s.policy.weightOfAll (supporters recover s batch height root)).toNat = w := by
    rw [QuorumPolicy.toNat_weightOfAll, hfor.2.2, support]
  rw [← hword] at hw ⊢
  exact UInt64.le_iff_toNat_le.1 (hgreatest (mem_weights_iff.2 hw))

/-- Without a quorum above the trusted height all weights there are below the threshold. -/
theorem Idle.lt_threshold (h : Idle recover s batch) {w : Nat}
    (hw : w ∈ freshWeights recover s batch) : w < s.policy.threshold.toNat := by
  obtain ⟨height, root, hfresh, hne, rfl⟩ := hw
  have hbelow : support recover s batch height root < s.policy.threshold.toNat := by
    by_contra hle
    exact h height root hfresh ⟨hne, Nat.not_lt.1 hle⟩
  exact (Nat.min_le_left _ _).trans_lt hbelow

/-! ### Causes -/

variable (recover s batch) in
/-- Why a batch without a verdict is refused. -/
inductive Refused : ClientError → Prop
  /-- The roots above the trusted height weigh too little. -/
  | short {best : UInt64}
      (fresh : ∃ c ∈ batch, c.Usable recover s ∧ s.latestHeight < c.snapshot.height)
      (greatest : IsGreatest (freshWeights recover s batch) best.toNat)
      (below : best < s.policy.threshold) : Refused (.quorumNotMet best s.policy.threshold)
  /-- Only strangers claim anything. -/
  | strangers (all : ∀ c ∈ batch, ¬ c.NamesMember s) : Refused .unauthorizedAttestors
  /-- What is usable is at or below the trusted height. -/
  | stale (unfresh : ∀ c ∈ batch, c.Usable recover s → c.snapshot.height ≤ s.latestHeight)
      (some : ∃ c ∈ batch, c.Usable recover s) : Refused (.staleClaims s.latestHeight)
  /-- Nothing is usable, and something is forged. -/
  | forged (unusable : ∀ c ∈ batch, ¬ c.Usable recover s)
      (some : ∃ c ∈ batch, c.Forged recover s) : Refused .invalidSignatures
  /-- All that registered attestors claim is for other chains. -/
  | foreign {c : Claim} (unusable : ∀ c ∈ batch, ¬ c.Usable recover s)
      (genuine : ∀ c ∈ batch, ¬ c.Forged recover s) (mem : c ∈ batch) (foreign : c.Foreign s) :
      Refused (.chainMismatch s.chainId c.snapshot.chainId)

/-- If some claim names a registered attestor and none is usable or forged, one is foreign. -/
private theorem exists_lastForeign? (hmember : ∃ c ∈ batch, c.NamesMember s)
    (hunusable : ∀ c ∈ batch, ¬ c.Usable recover s)
    (hgenuine : ∀ c ∈ batch, ¬ c.Forged recover s) :
    ∃ c, lastForeign? s batch = some c ∧ c ∈ batch ∧ c.Foreign s := by
  cases hlast : lastForeign? s batch with
  | some c => exact ⟨c, rfl, foreign_of_lastForeign? hlast⟩
  | none =>
    obtain ⟨c, hc, hnamed⟩ := hmember
    rcases hnamed.foreign_or_forged_or_usable recover with hforeign | hforged | husable
    · exact absurd hforeign (lastForeign?_eq_none_iff.1 hlast c hc)
    · exact absurd hforged (hgenuine c hc)
    · exact absurd husable (hunusable c hc)

/-- The counters of the tally decide as the claims do. -/
private theorem refused_refusal (hidle : Idle recover s batch) :
    Refused recover s batch ((Tally.ofBatch recover s batch).refusal s batch.length) := by
  rw [Tally.refusal]
  split_ifs with hfresh hstrangers hstale hforged
  · have hgreatest := Tally.isGreatest_bestWeight (Tally.fresh_pos_iff.1 hfresh)
    have hbelow := UInt64.lt_iff_toNat_lt.2 (hidle.lt_threshold hgreatest.1)
    exact .short (Tally.fresh_pos_iff.1 hfresh) hgreatest hbelow
  · exact .strangers (Tally.strangers_eq_length_iff.1 hstrangers)
  · obtain ⟨c, hc, husable, -⟩ := Tally.stale_pos_iff.1 hstale
    refine .stale (fun d hd hdusable => ?_) ⟨c, hc, husable⟩
    exact UInt64.not_lt.1 fun hlt => hfresh (Tally.fresh_pos_iff.2 ⟨d, hd, hdusable, hlt⟩)
  · exact .forged (Tally.not_usable_of_counters hfresh hstale) (Tally.forged_pos_iff.1 hforged)
  · have hunusable := Tally.not_usable_of_counters hfresh hstale
    have hgenuine : ∀ c ∈ batch, ¬ c.Forged recover s :=
      fun c hc h => hforged (Tally.forged_pos_iff.2 ⟨c, hc, h⟩)
    have hmember : ∃ c ∈ batch, c.NamesMember s := by
      by_contra hnone
      exact hstrangers (Tally.strangers_eq_length_iff.2 fun c hc h => hnone ⟨c, hc, h⟩)
    obtain ⟨c, hlast, hc, hforeign⟩ := exists_lastForeign? hmember hunusable hgenuine
    rw [Tally.otherChain_ofBatch, hlast]
    exact .foreign hunusable hgenuine hc hforeign

/-- An error of a batch other than a conflict is the one that its tally gives. -/
private theorem eq_refusal_of_aggregate (hne : batch ≠ [])
    (herror : aggregate recover s batch = .error cause)
    (hother : ∀ height, cause ≠ .conflictingQuorum height) :
    cause = (Tally.ofBatch recover s batch).refusal s batch.length := by
  rw [aggregate, if_neg hne] at herror
  dsimp only at herror
  split at herror
  · exact absurd (Except.error.inj herror).symm (hother _)
  split at herror
  · contradiction
  split at herror
  · contradiction
  · exact (Except.error.inj herror).symm

/-- A batch that is refused without a conflict is refused for one of the causes. -/
theorem refused_of_aggregate (hne : batch ≠ [])
    (herror : aggregate recover s batch = .error cause)
    (hother : ∀ height, cause ≠ .conflictingQuorum height) : Refused recover s batch cause := by
  have hjudged : Judged recover s batch (.error cause) := herror ▸ judged_aggregate recover s batch
  have hidle : Idle recover s batch := by
    cases hjudged with
    | conflict least => exact absurd rfl (hother _)
    | refused calm idle unconfirmed other => exact idle
  rw [eq_refusal_of_aggregate hne herror hother]
  exact refused_refusal hidle

/-! ### Reading a cause backwards -/

namespace Refused

/-- With a usable claim above the trusted height, the quorum is what is missing, and the greatest
weight is told. -/
theorem quorumNotMet (h : Refused recover s batch cause)
    (hfresh : ∃ c ∈ batch, c.Usable recover s ∧ s.latestHeight < c.snapshot.height) :
    ∃ best, cause = .quorumNotMet best s.policy.threshold ∧
      IsGreatest (freshWeights recover s batch) best.toNat ∧ best < s.policy.threshold := by
  obtain ⟨c, hc, husable, hlt⟩ := hfresh
  cases h with
  | short fresh greatest below => exact ⟨_, rfl, greatest, below⟩
  | strangers all => exact absurd husable.namesMember (all c hc)
  | stale unfresh some => exact absurd hlt (UInt64.not_lt.2 (unfresh c hc husable))
  | forged unusable some => exact absurd husable (unusable c hc)
  | foreign unusable genuine mem foreign => exact absurd husable (unusable c hc)

/-- Only a missing quorum is worth another attempt, and it takes a usable claim above the trusted
height. -/
theorem isRetryable_iff (h : Refused recover s batch cause) :
    cause.isRetryable ↔ ∃ c ∈ batch, c.Usable recover s ∧ s.latestHeight < c.snapshot.height := by
  constructor
  · intro hretryable
    cases h with
    | short fresh greatest below => exact fresh
    | strangers all => contradiction
    | stale unfresh some => contradiction
    | forged unusable some => contradiction
    | foreign unusable genuine mem foreign => contradiction
  · intro hfresh
    obtain ⟨best, rfl, -⟩ := h.quorumNotMet hfresh
    rfl

/-- Unauthorized attestors are the cause exactly if no claim names a member. -/
theorem unauthorizedAttestors_iff (h : Refused recover s batch cause) :
    cause = .unauthorizedAttestors ↔ ∀ c ∈ batch, ¬ c.NamesMember s := by
  constructor
  · rintro rfl
    cases h with
    | strangers all => exact all
  · intro hnone
    cases h with
    | short fresh greatest below =>
      obtain ⟨c, hc, husable, -⟩ := fresh
      exact absurd husable.namesMember (hnone c hc)
    | strangers all => rfl
    | stale unfresh some =>
      obtain ⟨c, hc, husable⟩ := some
      exact absurd husable.namesMember (hnone c hc)
    | forged unusable some =>
      obtain ⟨c, hc, hforged⟩ := some
      exact absurd hforged.namesMember (hnone c hc)
    | @foreign c unusable genuine mem foreign => exact absurd foreign.1 (hnone c mem)

/-- With no usable claim above the trusted height, claims are stale exactly if one is usable at or
below it. -/
theorem staleClaims_iff (h : Refused recover s batch cause)
    (hunfresh : ∀ c ∈ batch, c.Usable recover s → c.snapshot.height ≤ s.latestHeight) :
    cause = .staleClaims s.latestHeight ↔
      ∃ c ∈ batch, c.Usable recover s ∧ c.snapshot.height ≤ s.latestHeight := by
  constructor
  · rintro rfl
    cases h with
    | stale unfresh some =>
      obtain ⟨c, hc, husable⟩ := some
      exact ⟨c, hc, husable, unfresh c hc husable⟩
  · rintro ⟨c, hc, husable, -⟩
    cases h with
    | short fresh greatest below =>
      obtain ⟨d, hd, hdusable, hlt⟩ := fresh
      exact absurd hlt (UInt64.not_lt.2 (hunfresh d hd hdusable))
    | strangers all => exact absurd husable.namesMember (all c hc)
    | stale unfresh some => rfl
    | forged unusable some => exact absurd husable (unusable c hc)
    | foreign unusable genuine mem foreign => exact absurd husable (unusable c hc)

/-- Without a usable claim three causes are left. -/
private theorem of_unusable (h : Refused recover s batch cause)
    (hunusable : ∀ c ∈ batch, ¬ c.Usable recover s) :
    (cause = .unauthorizedAttestors ∧ ∀ c ∈ batch, ¬ c.NamesMember s) ∨
    (cause = .invalidSignatures ∧ ∃ c ∈ batch, c.Forged recover s) ∨
    ((∀ c ∈ batch, ¬ c.Forged recover s) ∧
      ∃ c ∈ batch, c.Foreign s ∧ cause = .chainMismatch s.chainId c.snapshot.chainId) := by
  cases h with
  | short fresh greatest below =>
    obtain ⟨c, hc, husable, -⟩ := fresh
    exact absurd husable (hunusable c hc)
  | strangers all => exact .inl ⟨rfl, all⟩
  | stale unfresh some =>
    obtain ⟨c, hc, husable⟩ := some
    exact absurd husable (hunusable c hc)
  | forged unusable some => exact .inr (.inl ⟨rfl, some⟩)
  | foreign unusable genuine mem foreign => exact .inr (.inr ⟨genuine, _, mem, foreign, rfl⟩)

/-- With no usable claim, signatures are the cause exactly if some claim is forged. -/
theorem invalidSignatures_iff (h : Refused recover s batch cause)
    (hunusable : ∀ c ∈ batch, ¬ c.Usable recover s) :
    cause = .invalidSignatures ↔ ∃ c ∈ batch, c.Forged recover s := by
  constructor
  · rintro rfl
    cases h with
    | forged unusable some => exact some
  · rintro ⟨c, hc, hforged⟩
    rcases h.of_unusable hunusable with ⟨-, hstrangers⟩ | ⟨hcause, -⟩ | ⟨hgenuine, -⟩
    · exact absurd hforged.namesMember (hstrangers c hc)
    · exact hcause
    · exact absurd hforged (hgenuine c hc)

/-- What is left is a claim for another chain, and its chain is told. -/
theorem exists_chainMismatch (h : Refused recover s batch cause)
    (hmember : ∃ c ∈ batch, c.NamesMember s) (hunusable : ∀ c ∈ batch, ¬ c.Usable recover s)
    (hgenuine : ∀ c ∈ batch, ¬ c.Forged recover s) :
    ∃ c ∈ batch, c.Foreign s ∧ cause = .chainMismatch s.chainId c.snapshot.chainId := by
  rcases h.of_unusable hunusable with ⟨-, hstrangers⟩ | ⟨-, d, hd, hforged⟩ | ⟨-, hforeign⟩
  · obtain ⟨c, hc, hnamed⟩ := hmember
    exact absurd hnamed (hstrangers c hc)
  · exact absurd hforged (hgenuine d hd)
  · exact hforeign

end Refused

/-- **Why a batch is refused.** Let a batch with claims come to an error other than a conflict. If
some usable claim is above the trusted height, the quorum is missing: what is reported is the
greatest weight behind a root there, cut off at the greatest word, and it is below the threshold.
Otherwise the claims are of strangers exactly if none names a registered attestor; else they are
stale exactly if one is usable; else their signatures are invalid exactly if one is forged; else the
chain of some foreign claim is named. So submitting again is worth it exactly if some usable claim
is above the trusted height. -/
theorem cause_of_refusal (hne : batch ≠ []) (herror : aggregate recover s batch = .error cause)
    (hother : ∀ height, cause ≠ .conflictingQuorum height) :
    ((∃ c ∈ batch, c.Usable recover s ∧ s.latestHeight < c.snapshot.height) →
      ∃ best, cause = .quorumNotMet best s.policy.threshold ∧
        IsGreatest (freshWeights recover s batch) best.toNat ∧ best < s.policy.threshold) ∧
    ((∀ c ∈ batch, c.Usable recover s → c.snapshot.height ≤ s.latestHeight) →
      (cause = .unauthorizedAttestors ↔ ∀ c ∈ batch, ¬ c.NamesMember s) ∧
      ((∃ c ∈ batch, c.NamesMember s) →
        (cause = .staleClaims s.latestHeight ↔
          ∃ c ∈ batch, c.Usable recover s ∧ c.snapshot.height ≤ s.latestHeight) ∧
        ((∀ c ∈ batch, ¬ c.Usable recover s) →
          (cause = .invalidSignatures ↔ ∃ c ∈ batch, c.Forged recover s) ∧
          ((∀ c ∈ batch, ¬ c.Forged recover s) →
            ∃ c ∈ batch, c.Foreign s ∧
              cause = .chainMismatch s.chainId c.snapshot.chainId)))) ∧
    (cause.isRetryable ↔
      ∃ c ∈ batch, c.Usable recover s ∧ s.latestHeight < c.snapshot.height) := by
  have hrefused : Refused recover s batch cause := refused_of_aggregate hne herror hother
  refine ⟨hrefused.quorumNotMet, ?_, hrefused.isRetryable_iff⟩
  intro hunfresh
  refine ⟨hrefused.unauthorizedAttestors_iff, fun hmember => ?_⟩
  refine ⟨hrefused.staleClaims_iff hunfresh, fun hunusable => ?_⟩
  exact ⟨hrefused.invalidSignatures_iff hunusable,
    hrefused.exists_chainMismatch hmember hunusable⟩

open Client.ThreeVoters in
/-- Ann alone falls one short, and claims for two other chains are refused for one of them. -/
theorem cause_of_refusal_three_voters :
    aggregate readSigner start (dispute.take 1) = .error (.quorumNotMet 1 2) ∧
    IsGreatest (freshWeights readSigner start (dispute.take 1)) 1 ∧
    aggregate readSigner start abroad = .error (.chainMismatch "chain" "west") ∧
    ∃ c ∈ abroad, c.Foreign start ∧
      ClientError.chainMismatch "chain" "west" = .chainMismatch "chain" c.snapshot.chainId := by
  have hshort : aggregate readSigner start (dispute.take 1) = .error (.quorumNotMet 1 2) := by
    decide +kernel
  have hfresh : ∃ c ∈ dispute.take 1, c.Usable readSigner start ∧
      start.latestHeight < c.snapshot.height := by decide +kernel
  obtain ⟨best, hbest, hgreatest, -⟩ := (cause_of_refusal (by decide) hshort (by simp)).1 hfresh
  obtain rfl : (1 : UInt64) = best := (ClientError.quorumNotMet.inj hbest).1
  have habroad : aggregate readSigner start abroad = .error (.chainMismatch "chain" "west") := by
    decide +kernel
  have hunusable : ∀ c ∈ abroad, ¬ c.Usable readSigner start := by decide +kernel
  have hmember : ∃ c ∈ abroad, c.NamesMember start := by decide +kernel
  have hgenuine : ∀ c ∈ abroad, ¬ c.Forged readSigner start := by decide +kernel
  have hcause := (cause_of_refusal (by decide) habroad (by simp)).2.1
    fun c hc husable => absurd husable (hunusable c hc)
  exact ⟨hshort, hgreatest, habroad, ((hcause.2 hmember).2 hunusable).2 hgenuine⟩

end Attestation
