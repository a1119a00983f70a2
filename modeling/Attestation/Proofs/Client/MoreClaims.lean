import Attestation.Proofs.Client.SameClaims

/-!
# Batches of more claims

More claims never undo a verdict. Quorums and equivocations stay when claims are added, so a
conflict is still there, at the same height or below; an accepted height still has its quorum, so
unless there is a conflict now, it is accepted or a higher one is; and a confirmed root has its
quorum. Claims that are not usable add nothing at all: as soon as one claim of a batch is usable,
verdict and refusal depend on the usable claims alone (`aggregate_of_same_usable`).
-/

namespace Attestation

variable {recover : Recovery} {s : ClientState} {batch more : List Claim} {height : UInt64}

/-! ### Verdicts on more claims -/

/-- More claims leave a conflict, at the same height or below. -/
private theorem exists_conflict_of_subset (h : batch ⊆ more)
    (hconflict : aggregate recover s batch = .error (.conflictingQuorum height)) :
    ∃ height', height' ≤ height ∧
      aggregate recover s more = .error (.conflictingQuorum height') := by
  obtain ⟨⟨hfresh, hbefore⟩, -⟩ := (judged_aggregate recover s batch).conflict_iff.1 hconflict
  have hstill : Conflict recover s more height := hbefore.mono h
  have hjudged := judged_aggregate recover s more
  obtain ⟨height', hresult⟩ := hjudged.exists_conflict_iff.2 ⟨height, hfresh, hstill⟩
  have hleast := (hjudged.conflict_iff.1 hresult).2
  exact ⟨height', hleast ⟨hfresh, hstill⟩, hresult⟩

/-- An accepted root may come to be in conflict, but gives way to none at its height or below. -/
theorem conflict_or_accepted_of_subset (h : batch ⊆ more) {u : AcceptedUpdate}
    (haccepted : aggregate recover s batch = .ok (.accepted u)) :
    (∃ height, aggregate recover s more = .error (.conflictingQuorum height)) ∨
      ∃ u', aggregate recover s more = .ok (.accepted u') ∧ u.height ≤ u'.height ∧
        (u'.height = u.height → u'.root = u.root) := by
  obtain ⟨-, ⟨⟨hfresh, -⟩, -⟩, hsupported⟩ :=
    (judged_aggregate recover s batch).accepted_iff.1 haccepted
  have hstill : HasQuorum recover s more u.height u.root := hsupported.quorum.mono h
  exact (judged_aggregate recover s more).conflict_or_accepted hfresh hstill

/-- More claims leave what is trusted confirmed, unless they bring a new root or a conflict. -/
private theorem not_refused_of_subset (h : batch ⊆ more)
    (htrusted : aggregate recover s batch = .ok .alreadyTrusted) :
    aggregate recover s more = .ok .alreadyTrusted ∨
      (∃ u, aggregate recover s more = .ok (.accepted u)) ∨
      ∃ height, aggregate recover s more = .error (.conflictingQuorum height) := by
  obtain ⟨-, -, hquorum⟩ := (judged_aggregate recover s batch).alreadyTrusted_iff.1 htrusted
  have hstill : HasQuorum recover s more s.latestHeight s.latestRoot := hquorum.mono h
  have hjudged := judged_aggregate recover s more
  generalize aggregate recover s more = result at hjudged ⊢
  cases hjudged with
  | conflict least => exact .inr (.inr ⟨_, rfl⟩)
  | accepted calm greatest supported => exact .inr (.inl ⟨_, rfl⟩)
  | confirmed calm idle quorum => exact .inl rfl
  | refused calm idle unconfirmed other => exact absurd hstill unconfirmed

/-! ### Claims that are not usable -/

/-- With a usable claim, a refusal is for a missing quorum if some usable claim is above the trusted
height, and for stale claims otherwise. -/
private theorem Tally.refusal_of_usable (husable : ∃ c ∈ batch, c.Usable recover s) :
    (ofBatch recover s batch).refusal s batch.length =
      if ∃ c ∈ batch, c.Usable recover s ∧ s.latestHeight < c.snapshot.height then
        .quorumNotMet ((ofBatch recover s batch).bestWeight s) s.policy.threshold
      else .staleClaims s.latestHeight := by
  by_cases hsome : ∃ c ∈ batch, c.Usable recover s ∧ s.latestHeight < c.snapshot.height
  · rw [refusal, if_pos (fresh_pos_iff.2 hsome), if_pos hsome]
  · obtain ⟨c, hc, hcu⟩ := husable
    have hfresh : ¬ 0 < (ofBatch recover s batch).fresh := fun h => hsome (fresh_pos_iff.1 h)
    have hstrangers : (ofBatch recover s batch).strangers ≠ batch.length := by
      intro hall
      exact strangers_eq_length_iff.1 hall c hc hcu.namesMember
    -- the usable claim is not above the trusted height, so it was counted as stale
    have hstale : 0 < (ofBatch recover s batch).stale := by
      by_contra hnone
      exact not_usable_of_counters hfresh hnone c hc hcu
    rw [refusal, if_neg hfresh, if_neg hstrangers, if_pos hstale, if_neg hsome]

/-- Two batches with the same usable claims, and with at least one, come to the same verdict or to
the same refusal. -/
theorem aggregate_of_same_usable (hsame : ∀ c, c.Usable recover s → (c ∈ batch ↔ c ∈ more))
    (husable : ∃ c ∈ batch, c.Usable recover s) :
    aggregate recover s batch = aggregate recover s more := by
  obtain ⟨hfreshVotes, hstaleVotes, hsigned⟩ := Tally.maps_of_same_usable hsame
  obtain ⟨c, hc, hcu⟩ := husable
  have hc' : c ∈ more := (hsame c hcu).1 hc
  have hfresh : (∃ c ∈ batch, c.Usable recover s ∧ s.latestHeight < c.snapshot.height) ↔
      ∃ c ∈ more, c.Usable recover s ∧ s.latestHeight < c.snapshot.height :=
    exists_congr fun d => and_congr_left fun hd => hsame d hd.1
  have hquorums : (Tally.ofBatch recover s batch).quorums s =
      (Tally.ofBatch recover s more).quorums s := by
    rw [Tally.quorums, Tally.quorums, hfreshVotes]
  have hequivocated : (Tally.ofBatch recover s batch).equivocated s =
      (Tally.ofBatch recover s more).equivocated s := by
    rw [Tally.equivocated, Tally.equivocated, hsigned]
  have hconfirms : (Tally.ofBatch recover s batch).confirms s =
      (Tally.ofBatch recover s more).confirms s := by
    rw [Tally.confirms, Tally.confirms, hstaleVotes]
  have hrefusal : (Tally.ofBatch recover s batch).refusal s batch.length =
      (Tally.ofBatch recover s more).refusal s more.length := by
    rw [Tally.refusal_of_usable ⟨c, hc, hcu⟩, Tally.refusal_of_usable ⟨c, hc', hcu⟩]
    simp only [hfresh, Tally.bestWeight, hfreshVotes]
  -- the verdict looks at nothing else
  simp only [aggregate, if_neg (List.ne_nil_of_mem hc), if_neg (List.ne_nil_of_mem hc'), hquorums,
    hequivocated, hconfirms, hrefusal]

/-- **More claims never undo a verdict.** Let every claim of a batch occur in another one. If the
first batch has a conflict, the other one has a conflict, at the same height or a lower one. If the
first one is accepted, the other one has a conflict or is accepted, at the same height with the same
root or at a higher one. If the first one confirms the trusted root, the other one does, or is
accepted, or has a conflict. And if the first one has a usable claim and the claims that the other
one has besides are not usable, then both come to the same. -/
theorem verdict_kept_by_more_claims (recover : Recovery) (s : ClientState) (h : batch ⊆ more) :
    (∀ height, aggregate recover s batch = .error (.conflictingQuorum height) →
      ∃ height', height' ≤ height ∧
        aggregate recover s more = .error (.conflictingQuorum height')) ∧
    (∀ u, aggregate recover s batch = .ok (.accepted u) →
      (∃ height, aggregate recover s more = .error (.conflictingQuorum height)) ∨
        ∃ u', aggregate recover s more = .ok (.accepted u') ∧ u.height ≤ u'.height ∧
          (u'.height = u.height → u'.root = u.root)) ∧
    (aggregate recover s batch = .ok .alreadyTrusted →
      aggregate recover s more = .ok .alreadyTrusted ∨
        (∃ u, aggregate recover s more = .ok (.accepted u)) ∨
        ∃ height, aggregate recover s more = .error (.conflictingQuorum height)) ∧
    ((∃ c ∈ batch, c.Usable recover s) → (∀ c ∈ more, c ∉ batch → ¬ c.Usable recover s) →
      aggregate recover s more = aggregate recover s batch) := by
  refine ⟨fun _ => exists_conflict_of_subset h, fun _ => conflict_or_accepted_of_subset h,
    not_refused_of_subset h, fun husable hrest => ?_⟩
  have hsame : ∀ c, c.Usable recover s → (c ∈ batch ↔ c ∈ more) := by
    intro c hcu
    exact ⟨fun hc => h hc, fun hc => by_contra fun hnot => hrest c hc hnot hcu⟩
  exact (aggregate_of_same_usable hsame husable).symm

namespace Client.ThreeVoters

/-- A claim of a stranger and one that Eve signed in the name of Bob. -/
def noise : List Claim := [claim "mallory" 9 9 (trueRoot 9), claim "bob" 3 9 (trueRoot 9)]

/-- Ann and Eve take the dispute further, and Bob and Eve find another one below it. -/
def escalation : List Claim :=
  [claim "ann" 1 5 (trueRoot 6), claim "bob" 2 3 (trueRoot 3), claim "eve" 3 3 (trueRoot 3),
    claim "eve" 3 3 (trueRoot 4)]

end Client.ThreeVoters

open Client.ThreeVoters in
/-- Noise does not change the outcome of the dispute, and what Ann adds to it makes a conflict that
all further claims leave one. -/
theorem verdict_kept_by_more_claims_dispute :
    dispute ⊆ dispute ++ noise ∧
    aggregate readSigner start (dispute ++ noise) = aggregate readSigner start dispute ∧
    aggregate readSigner start (dispute ++ escalation.take 1) = .error (.conflictingQuorum 5) ∧
    ∃ height, height ≤ 5 ∧
      aggregate readSigner start (dispute ++ escalation) = .error (.conflictingQuorum height) := by
  have hnoise : dispute ⊆ dispute ++ noise := List.subset_append_left _ _
  have husable : ∃ c ∈ dispute, c.Usable readSigner start := by decide +kernel
  have hunusable : ∀ c ∈ dispute ++ noise, c ∉ dispute → ¬ c.Usable readSigner start := by
    decide +kernel
  have hsame := (verdict_kept_by_more_claims readSigner start hnoise).2.2.2 husable hunusable
  have hescalation : dispute ++ escalation.take 1 ⊆ dispute ++ escalation :=
    List.append_subset.2 ⟨List.subset_append_left _ _,
      fun c hc => List.mem_append_right _ (List.mem_of_mem_take hc)⟩
  have hconflict : aggregate readSigner start (dispute ++ escalation.take 1) =
      .error (.conflictingQuorum 5) := by decide +kernel
  exact ⟨hnoise, hsame, hconflict,
    (verdict_kept_by_more_claims readSigner start hescalation).1 5 hconflict⟩

end Attestation
