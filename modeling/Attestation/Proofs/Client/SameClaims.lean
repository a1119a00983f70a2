import Attestation.Proofs.Client.Safety

/-!
# Batches of the same claims

How a batch lists its claims hardly matters. Two batches with the same claims, in any order and with
any repetitions, have the same votes and the same signed roots (`Tally.maps_congr`), and their
counters are zero, or count all claims, in the same cases; so they come to the same verdict or to
the same refusal. The one thing that depends on the listing is the chain that is named when all
claims of registered attestors are for other chains: it is that of the last one (`lastForeign?`).
-/

namespace Attestation

/-! ### What folds over claims find out -/

private theorem min?_congr {l l' : List UInt64} (h : ∀ w, w ∈ l ↔ w ∈ l') : l.min? = l'.min? := by
  refine Option.ext fun w => ?_
  rw [List.min?_eq_some_iff, List.min?_eq_some_iff, h]
  simp only [h]

/-- Folds by a key are equal if the folds of the elements under each key are. -/
private theorem OrderedMap.foldBy_congr {κ ν α : Type} [Ord κ] [Std.TransOrd κ] [Std.LawfulEqOrd κ]
    {key : α → κ} {f : ν → α → ν} {e : ν} {l l' : List α} (hmem : ∀ a, a ∈ l ↔ a ∈ l')
    (hfold : ∀ {l l' : List α}, (∀ a, a ∈ l ↔ a ∈ l') → l.foldl f e = l'.foldl f e) :
    foldBy key (fun o a => f (o.getD e) a) l = foldBy key (fun o a => f (o.getD e) a) l' := by
  classical
  refine ext_get? fun k => ?_
  have hunder : ∀ a, a ∈ l.filter (fun a => decide (key a = k)) ↔
      a ∈ l'.filter (fun a => decide (key a = k)) := by
    intro a
    rw [List.mem_filter, List.mem_filter, hmem]
  have hnil : l.filter (fun a => decide (key a = k)) = [] ↔
      l'.filter (fun a => decide (key a = k)) = [] := by
    simp only [List.eq_nil_iff_forall_not_mem, hunder]
  rw [get?_foldBy_getD, get?_foldBy_getD, hfold hunder]
  simp only [hnil]

section Claims

variable {claims claims' : List Claim}

/-- Votes depend on which claims are cast, not on their order or number. -/
private theorem Votes.ofClaims_congr (h : ∀ c, c ∈ claims ↔ c ∈ claims') :
    ofClaims claims = ofClaims claims' := by
  refine OrderedMap.ext_get? fun id => ?_
  rw [get?_ofClaims, get?_ofClaims]
  refine min?_congr fun time => ?_
  simp only [List.mem_map, List.mem_filter, h]

private theorem rootsOf_congr (h : ∀ c, c ∈ claims ↔ c ∈ claims') :
    rootsOf claims = rootsOf claims' := by
  refine eq_of_increasing (increasing_rootsOf _) (increasing_rootsOf _) fun root => ?_
  simp only [mem_rootsOf, h]

end Claims

variable {recover : Recovery} {s : ClientState} {batch other : List Claim}

/-! ### Tallies -/

/-- The votes of a batch depend on its usable claims alone. -/
private theorem votesWhere_congr (h : ∀ c, c.Usable recover s → (c ∈ batch ↔ c ∈ other))
    {p : UInt64 → Prop} [DecidablePred p] :
    votesWhere recover s batch p = votesWhere recover s other p := by
  refine OrderedMap.foldBy_congr (fun c => ?_) Votes.ofClaims_congr
  simp only [List.mem_filter, decide_eq_true_eq]
  exact and_congr_left fun hfor => h c hfor.1

namespace Tally

/-- The maps of a tally depend on the usable claims alone. -/
theorem maps_of_same_usable (h : ∀ c, c.Usable recover s → (c ∈ batch ↔ c ∈ other)) :
    (ofBatch recover s batch).freshVotes = (ofBatch recover s other).freshVotes ∧
      (ofBatch recover s batch).staleVotes = (ofBatch recover s other).staleVotes ∧
      (ofBatch recover s batch).signed = (ofBatch recover s other).signed := by
  refine ⟨?_, ?_, ?_⟩
  · rw [votes_ofBatch.1, votes_ofBatch.1, votesWhere_congr h]
  · rw [votes_ofBatch.2, votes_ofBatch.2, votesWhere_congr h]
  · rw [signed_ofBatch, signed_ofBatch]
    refine OrderedMap.foldBy_congr (fun c => ?_) rootsOf_congr
    simp only [List.mem_filter, decide_eq_true_eq]
    exact and_congr_left fun husable => h c husable

/-- The maps of a tally do not depend on the listing. -/
theorem maps_congr (h : ∀ c, c ∈ batch ↔ c ∈ other) :
    (ofBatch recover s batch).freshVotes = (ofBatch recover s other).freshVotes ∧
      (ofBatch recover s batch).staleVotes = (ofBatch recover s other).staleVotes ∧
      (ofBatch recover s batch).signed = (ofBatch recover s other).signed :=
  maps_of_same_usable fun c _ => h c

/-- Batches with the same claims have the same quorums. -/
private theorem quorums_congr (h : ∀ c, c ∈ batch ↔ c ∈ other) :
    (ofBatch recover s batch).quorums s = (ofBatch recover s other).quorums s := by
  rw [quorums, quorums, (maps_congr h).1]

private theorem equivocated_congr (h : ∀ c, c ∈ batch ↔ c ∈ other) :
    (ofBatch recover s batch).equivocated s = (ofBatch recover s other).equivocated s := by
  rw [equivocated, equivocated, (maps_congr h).2.2]

private theorem confirms_congr (h : ∀ c, c ∈ batch ↔ c ∈ other) :
    (ofBatch recover s batch).confirms s = (ofBatch recover s other).confirms s := by
  rw [confirms, confirms, (maps_congr h).2.1]

private theorem bestWeight_congr (h : ∀ c, c ∈ batch ↔ c ∈ other) :
    (ofBatch recover s batch).bestWeight s = (ofBatch recover s other).bestWeight s := by
  rw [bestWeight, bestWeight, (maps_congr h).1]

end Tally

/-! ### Refusals -/

/-- Whether a claim is for another chain depends on the claims only; which of them is the last does
not. -/
private theorem lastForeign?_eq_none_congr (h : ∀ c, c ∈ batch ↔ c ∈ other) :
    lastForeign? s batch = none ↔ lastForeign? s other = none := by
  simp only [lastForeign?_eq_none_iff, h]

variable (recover s) in
/-- Two listings of the same claims are refused for the same cause, except that each names the chain
of its last foreign claim if nothing but foreign claims and claims of strangers is there. -/
theorem Tally.refusal_congr (h : ∀ c, c ∈ batch ↔ c ∈ other) :
    (ofBatch recover s batch).refusal s batch.length =
        (ofBatch recover s other).refusal s other.length ∨
      ∃ c ∈ lastForeign? s batch, ∃ d ∈ lastForeign? s other,
        (ofBatch recover s batch).refusal s batch.length =
            .chainMismatch s.chainId c.snapshot.chainId ∧
          (ofBatch recover s other).refusal s other.length =
            .chainMismatch s.chainId d.snapshot.chainId := by
  have hfresh : 0 < (ofBatch recover s batch).fresh ↔ 0 < (ofBatch recover s other).fresh := by
    simp only [fresh_pos_iff, h]
  have hstrangers : (ofBatch recover s batch).strangers = batch.length ↔
      (ofBatch recover s other).strangers = other.length := by
    simp only [strangers_eq_length_iff, h]
  have hstale : 0 < (ofBatch recover s batch).stale ↔ 0 < (ofBatch recover s other).stale := by
    simp only [stale_pos_iff, h]
  have hforged : 0 < (ofBatch recover s batch).forged ↔ 0 < (ofBatch recover s other).forged := by
    simp only [forged_pos_iff, h]
  simp only [refusal, hfresh, hstrangers, hstale, hforged, bestWeight_congr h, otherChain_ofBatch]
  split_ifs
  · exact .inl rfl
  · exact .inl rfl
  · exact .inl rfl
  · exact .inl rfl
  -- what is left looks at the last foreign claim, and the two listings may end in different ones
  · have hnone := lastForeign?_eq_none_congr (s := s) h
    cases hbatch : lastForeign? s batch with
    | none =>
      rw [hnone.1 hbatch]
      exact .inl rfl
    | some c =>
      cases hother : lastForeign? s other with
      | none =>
        rw [hnone.2 hother] at hbatch
        contradiction
      | some d => exact .inr ⟨c, rfl, d, rfl, rfl, rfl⟩

/-! ### Verdicts -/

/-- **The listing of a batch hardly matters.** Two batches of the same claims come to the same
verdict, with all that it says of an accepted update, or are refused for the same cause with the
same data. The one exception is a refusal for claims for other chains: it names the chain of the
last claim of a registered attestor for another chain, which depends on the listing. -/
theorem aggregate_of_same_claims (recover : Recovery) (s : ClientState)
    (h : ∀ c, c ∈ batch ↔ c ∈ other) :
    aggregate recover s batch = aggregate recover s other ∨
      ∃ c ∈ lastForeign? s batch, ∃ d ∈ lastForeign? s other,
        aggregate recover s batch = .error (.chainMismatch s.chainId c.snapshot.chainId) ∧
          aggregate recover s other = .error (.chainMismatch s.chainId d.snapshot.chainId) := by
  have hnil : batch = [] ↔ other = [] := by
    simp only [List.eq_nil_iff_forall_not_mem, h]
  simp only [aggregate, hnil, Tally.quorums_congr h, Tally.equivocated_congr h,
    Tally.confirms_congr h]
  split
  · exact .inl rfl
  split
  · exact .inl rfl
  split
  · exact .inl rfl
  split
  · exact .inl rfl
  -- only the refusal looks at more of the tally than its maps
  · rcases Tally.refusal_congr recover s h with hsame | ⟨c, hc, d, hd, hbatch, hother⟩
    · exact .inl (congrArg _ hsame)
    · exact .inr ⟨c, hc, d, hd, congrArg _ hbatch, congrArg _ hother⟩

namespace Client.ThreeVoters

/-- Ann states roots of two other chains. -/
def abroad : List Claim :=
  [⟨⟨"east", 5, trueRoot 5, 7⟩, "ann", [1]⟩, ⟨⟨"west", 5, trueRoot 5, 7⟩, "ann", [1]⟩]

end Client.ThreeVoters

open Client.ThreeVoters in
/-- A dispute is settled as before if it is listed backwards and in part twice. -/
theorem aggregate_of_same_claims_dispute :
    (∀ c, c ∈ dispute ↔ c ∈ dispute.reverse ++ dispute.take 2) ∧
      lastForeign? start dispute = none ∧
      aggregate readSigner start dispute =
        aggregate readSigner start (dispute.reverse ++ dispute.take 2) := by
  have hsame : ∀ c, c ∈ dispute ↔ c ∈ dispute.reverse ++ dispute.take 2 := by
    intro c
    rw [List.mem_append, List.mem_reverse]
    exact ⟨.inl, fun h => h.elim id List.mem_of_mem_take⟩
  have hforeign : lastForeign? start dispute = none := by decide +kernel
  refine ⟨hsame, hforeign, ?_⟩
  rcases aggregate_of_same_claims readSigner start hsame with hequal | ⟨c, hc, -⟩
  · exact hequal
  · exact nomatch hforeign.symm.trans hc

open Client.ThreeVoters in
/-- Of claims for two other chains the last one names the chain that is refused. -/
theorem aggregate_depends_on_listing :
    (∀ c, c ∈ abroad ↔ c ∈ abroad.reverse) ∧
      aggregate readSigner start abroad = .error (.chainMismatch "chain" "west") ∧
      aggregate readSigner start abroad.reverse = .error (.chainMismatch "chain" "east") := by
  refine ⟨fun c => List.mem_reverse.symm, ?_, ?_⟩
  · decide +kernel
  · decide +kernel

end Attestation
