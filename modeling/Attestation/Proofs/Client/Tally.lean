import Attestation.Client.Aggregate
import Attestation.Proofs.Client.Support

/-!
# Tallies of batches

What `Tally.ofBatch` has found out at the end of a batch, told by the batch itself. One step
(`Tally.add`) either leaves the three maps alone or takes the claim in as a vote; by induction on
the batch, from its end, each map is a fold by a key over the usable claims (`votes_ofBatch`,
`signed_ofBatch`). Under a subject stand the votes of the claims that support it, and these weigh
what their supporters weigh (`weigh_ofClaims`).
-/

namespace Attestation

/-! ### The votes of some claims -/

namespace Votes

/-- The votes of a list of claims, whatever they are for. -/
def ofClaims (claims : List Claim) : Votes := claims.foldl add .empty

private theorem ofClaims_append_singleton {claims : List Claim} {c : Claim} :
    ofClaims (claims ++ [c]) = (ofClaims claims).add c :=
  List.foldl_concat _ _ _ _

private theorem min?_append_singleton {times : List UInt64} {time : UInt64} :
    (times ++ [time]).min? = some (times.min?.elim time (min · time)) := by
  cases times with
  | nil => rfl
  | cons t times => rw [List.cons_append, List.min?_cons', List.min?_cons', List.foldl_concat]; rfl

/-- Under an id stands the earliest time that its claims give. -/
theorem get?_ofClaims {claims : List Claim} {id : String} :
    (ofClaims claims).get? id =
      ((claims.filter (·.attestorId = id)).map (·.snapshot.collectedAt)).min? := by
  induction claims using List.reverseRecOn with
  | nil => rfl
  | append_singleton claims c ih =>
    rw [ofClaims_append_singleton, add, OrderedMap.get?_alter, List.filter_append]
    by_cases h : c.attestorId = id
    · subst h
      rw [if_pos rfl, ih, List.filter_cons_of_pos (by simp), List.filter_nil, List.map_append,
        List.map_singleton, min?_append_singleton]
      cases ((claims.filter (·.attestorId = c.attestorId)).map (·.snapshot.collectedAt)).min? <;>
        rfl
    · rw [if_neg (Ne.symm h), ih, List.filter_cons_of_neg (by simpa using h), List.filter_nil,
        List.append_nil]

private theorem mem_keys_ofClaims {claims : List Claim} {id : String} :
    id ∈ (ofClaims claims).keys ↔ ∃ c ∈ claims, c.attestorId = id := by
  rw [OrderedMap.mem_keys, ← Option.isSome_iff_exists, get?_ofClaims, List.isSome_min?_iff]
  simp

/-- The least time of the votes is the least time of the claims. -/
theorem isLeast_minimum_values {claims : List Claim} (h : claims ≠ []) :
    IsLeast {time | ∃ c ∈ claims, c.snapshot.collectedAt = time}
      (Word.minimum (ofClaims claims).values) := by
  have hvalue : ∀ {id time}, (ofClaims claims).get? id = some time →
      (∃ c ∈ claims, c.snapshot.collectedAt = time) ∧
        ∀ c ∈ claims, c.attestorId = id → time ≤ c.snapshot.collectedAt := by
    intro id time hget
    obtain ⟨hmem, hle⟩ := List.min?_eq_some_iff.1 (get?_ofClaims ▸ hget)
    obtain ⟨c, hc, rfl⟩ := List.mem_map.1 hmem
    refine ⟨⟨c, List.mem_of_mem_filter hc, rfl⟩, fun d hd hid => hle _ ?_⟩
    exact List.mem_map_of_mem (List.mem_filter.2 ⟨hd, by simpa using hid⟩)
  have hget : ∀ c ∈ claims, ∃ time, (ofClaims claims).get? c.attestorId = some time :=
    fun c hc => OrderedMap.mem_keys.1 (mem_keys_ofClaims.2 ⟨c, hc, rfl⟩)
  have hne : (ofClaims claims).values ≠ [] := by
    obtain ⟨c, hc⟩ := List.exists_mem_of_ne_nil claims h
    obtain ⟨time, htime⟩ := hget c hc
    exact List.ne_nil_of_mem (OrderedMap.mem_values.2 ⟨_, htime⟩)
  obtain ⟨hmem, hle⟩ := Word.isLeast_minimum hne
  obtain ⟨id, hid⟩ := OrderedMap.mem_values.1 hmem
  refine ⟨(hvalue hid).1, ?_⟩
  rintro time ⟨c, hc, rfl⟩
  obtain ⟨t, ht⟩ := hget c hc
  exact UInt64.le_trans (hle (OrderedMap.mem_values.2 ⟨_, ht⟩)) ((hvalue ht).2 c hc rfl)

end Votes

/-! ### One claim -/

variable {recover : Recovery} {s : ClientState} {batch : List Claim}

namespace Tally

variable {t : Tally} {c : Claim}

/-- A usable claim is a vote. -/
private theorem add_of_usable (h : c.Usable recover s) : t.add recover s c = t.vote s c := by
  rw [add, Claim.standing_eq_usable_iff.2 h]

/-- A claim that is not usable leaves the votes and the signed roots as they are. -/
private theorem maps_add_of_not_usable (h : ¬ c.Usable recover s) :
    (t.add recover s c).freshVotes = t.freshVotes ∧
      (t.add recover s c).staleVotes = t.staleVotes ∧ (t.add recover s c).signed = t.signed := by
  rw [add]
  split
  · exact ⟨rfl, rfl, rfl⟩
  · exact ⟨rfl, rfl, rfl⟩
  · exact ⟨rfl, rfl, rfl⟩
  · rename_i hstanding
    exact absurd (Claim.standing_eq_usable_iff.1 hstanding) h

private theorem signed_vote : (t.vote s c).signed =
    t.signed.alter c.slot fun roots => insertSorted c.snapshot.root (roots.getD []) := by
  rw [vote]
  split <;> rfl

/-- A vote counts among the fresh ones if it is above the trusted height. -/
private theorem freshVotes_vote : (t.vote s c).freshVotes =
    if s.latestHeight < c.snapshot.height then addVote t.freshVotes c else t.freshVotes := by
  rw [vote]
  split <;> rfl

private theorem staleVotes_vote : (t.vote s c).staleVotes =
    if s.latestHeight < c.snapshot.height then t.staleVotes else addVote t.staleVotes c := by
  rw [vote]
  split <;> rfl

private theorem ofBatch_append_singleton :
    ofBatch recover s (batch ++ [c]) = (ofBatch recover s batch).add recover s c :=
  List.foldl_concat _ _ _ _

end Tally

/-! ### A whole batch -/

variable (recover s batch) in
/-- The votes of the usable claims whose height passes a test, by their subjects. -/
def votesWhere (p : UInt64 → Prop) [DecidablePred p] : OrderedMap Subject Votes :=
  .foldBy Claim.subject (fun votes c => Votes.add (votes.getD .empty) c)
    (batch.filter fun c => c.Usable recover s ∧ p c.snapshot.height)

/-- A last claim adds a vote if it is usable and at such a height. -/
private theorem votesWhere_append_singleton {p : UInt64 → Prop} [DecidablePred p] {c : Claim} :
    votesWhere recover s (batch ++ [c]) p =
      if c.Usable recover s ∧ p c.snapshot.height then
        addVote (votesWhere recover s batch p) c
      else votesWhere recover s batch p := by
  rw [votesWhere, List.filter_append]
  split_ifs with h
  · rw [List.filter_cons_of_pos (by simpa using h), List.filter_nil,
      OrderedMap.foldBy_append_singleton]
    rfl
  · rw [List.filter_cons_of_neg (by simpa using h), List.filter_nil, List.append_nil]
    rfl

/-- The votes of a tally are those of the usable claims above the trusted height, and of those at
or below it. -/
theorem votes_ofBatch :
    (Tally.ofBatch recover s batch).freshVotes =
        votesWhere recover s batch (s.latestHeight < ·) ∧
      (Tally.ofBatch recover s batch).staleVotes =
        votesWhere recover s batch (¬ s.latestHeight < ·) := by
  -- from the end of the batch, where the loop has taken in all claims but one
  induction batch using List.reverseRecOn with
  | nil => exact ⟨rfl, rfl⟩
  | append_singleton batch c ih =>
    rw [Tally.ofBatch_append_singleton, votesWhere_append_singleton, votesWhere_append_singleton,
      ← ih.1, ← ih.2]
    by_cases hu : c.Usable recover s
    · rw [Tally.add_of_usable hu, Tally.freshVotes_vote, Tally.staleVotes_vote]
      by_cases hf : s.latestHeight < c.snapshot.height <;> simp [hu, hf]
    · obtain ⟨hfresh, hstale, -⟩ := Tally.maps_add_of_not_usable
        (t := Tally.ofBatch recover s batch) hu
      simp [hu, hfresh, hstale]

/-- The signed roots of a tally are those of the usable claims. -/
theorem signed_ofBatch :
    (Tally.ofBatch recover s batch).signed =
      .foldBy Claim.slot (fun roots c => insertSorted c.snapshot.root (roots.getD []))
        (batch.filter fun c => c.Usable recover s) := by
  induction batch using List.reverseRecOn with
  | nil => rfl
  | append_singleton batch c ih =>
    rw [Tally.ofBatch_append_singleton, List.filter_append]
    by_cases hu : c.Usable recover s
    · rw [Tally.add_of_usable hu, Tally.signed_vote, ih,
        List.filter_cons_of_pos (by simpa using hu), List.filter_nil,
        OrderedMap.foldBy_append_singleton]
    · rw [(Tally.maps_add_of_not_usable hu).2.2, ih,
        List.filter_cons_of_neg (by simpa using hu), List.filter_nil, List.append_nil]

/-! ### Counters -/

namespace Tally

variable {t : Tally} {c : Claim}

/-- A vote counts as fresh or as stale and leaves what is known of unusable claims alone. -/
private theorem counters_vote : (t.vote s c).strangers = t.strangers ∧
    (t.vote s c).otherChain = t.otherChain ∧ (t.vote s c).forged = t.forged ∧
    (t.vote s c).fresh = t.fresh + (if s.latestHeight < c.snapshot.height then 1 else 0) ∧
    (t.vote s c).stale = t.stale + if c.snapshot.height ≤ s.latestHeight then 1 else 0 := by
  rw [vote]
  by_cases hfresh : s.latestHeight < c.snapshot.height
  · simp [hfresh, UInt64.not_le.2 hfresh]
  · simp [hfresh, UInt64.not_lt.1 hfresh]

/-- A counter that goes up by one at certain claims counts these claims. -/
theorem counter_ofBatch {counter : Tally → Nat} {p : Claim → Prop} [DecidablePred p]
    (hstart : counter {} = 0)
    (hadd : ∀ t c, counter (add recover s t c) = counter t + if p c then 1 else 0) :
    counter (ofBatch recover s batch) = batch.countP p := by
  induction batch using List.reverseRecOn with
  | nil => exact hstart
  | append_singleton batch c ih =>
    rw [ofBatch_append_singleton, hadd, ih, List.countP_append, List.countP_singleton]
    simp only [decide_eq_true_eq]

theorem strangers_ofBatch : (ofBatch recover s batch).strangers =
    batch.countP fun c => c.standing recover s = .stranger := by
  refine counter_ofBatch rfl fun t c => ?_
  rw [add]
  cases c.standing recover s with
  | usable => exact counters_vote.1
  | _ => rfl

theorem forged_ofBatch : (ofBatch recover s batch).forged =
    batch.countP fun c => c.standing recover s = .forged := by
  refine counter_ofBatch rfl fun t c => ?_
  rw [add]
  cases c.standing recover s with
  | usable => exact counters_vote.2.2.1
  | _ => rfl

theorem fresh_ofBatch : (ofBatch recover s batch).fresh =
    batch.countP fun c => c.standing recover s = .usable ∧ s.latestHeight < c.snapshot.height := by
  refine counter_ofBatch rfl fun t c => ?_
  rw [add]
  cases c.standing recover s with
  | usable => simpa using counters_vote.2.2.2.1
  | _ => rfl

theorem stale_ofBatch : (ofBatch recover s batch).stale =
    batch.countP fun c => c.standing recover s = .usable ∧ c.snapshot.height ≤ s.latestHeight := by
  refine counter_ofBatch rfl fun t c => ?_
  rw [add]
  cases c.standing recover s with
  | usable => simpa using counters_vote.2.2.2.2
  | _ => rfl

/-- All claims are of strangers if none names a registered attestor. -/
theorem strangers_eq_length_iff : (ofBatch recover s batch).strangers = batch.length ↔
    ∀ c ∈ batch, ¬ c.NamesMember s := by
  simp only [strangers_ofBatch, List.countP_eq_length, decide_eq_true_eq,
    Claim.standing_eq_stranger_iff]

theorem forged_pos_iff : 0 < (ofBatch recover s batch).forged ↔
    ∃ c ∈ batch, c.Forged recover s := by
  simp only [forged_ofBatch, List.countP_pos_iff, decide_eq_true_eq, Claim.standing_eq_forged_iff]

theorem fresh_pos_iff : 0 < (ofBatch recover s batch).fresh ↔
    ∃ c ∈ batch, c.Usable recover s ∧ s.latestHeight < c.snapshot.height := by
  simp only [fresh_ofBatch, List.countP_pos_iff, decide_eq_true_eq, Claim.standing_eq_usable_iff]

theorem stale_pos_iff : 0 < (ofBatch recover s batch).stale ↔
    ∃ c ∈ batch, c.Usable recover s ∧ c.snapshot.height ≤ s.latestHeight := by
  simp only [stale_ofBatch, List.countP_pos_iff, decide_eq_true_eq, Claim.standing_eq_usable_iff]

/-- A usable claim counts as fresh or as stale. -/
theorem not_usable_of_counters (hfresh : ¬ 0 < (ofBatch recover s batch).fresh)
    (hstale : ¬ 0 < (ofBatch recover s batch).stale) : ∀ c ∈ batch, ¬ c.Usable recover s := by
  intro c hc husable
  by_cases hlt : s.latestHeight < c.snapshot.height
  · exact hfresh (fresh_pos_iff.2 ⟨c, hc, husable, hlt⟩)
  · exact hstale (stale_pos_iff.2 ⟨c, hc, husable, UInt64.not_lt.1 hlt⟩)

end Tally

/-- The last claim of a registered attestor for another chain. -/
def lastForeign? (s : ClientState) (batch : List Claim) : Option Claim :=
  (batch.filter fun c => c.Foreign s).getLast?

/-- The tally remembers the chain of the last foreign claim. -/
theorem Tally.otherChain_ofBatch : (ofBatch recover s batch).otherChain =
    (lastForeign? s batch).map (·.snapshot.chainId) := by
  induction batch using List.reverseRecOn with
  | nil => rfl
  | append_singleton batch c ih =>
    rw [ofBatch_append_singleton, add, lastForeign?, List.filter_append]
    simp only [← Claim.standing_eq_otherChain_iff recover, lastForeign?] at ih ⊢
    cases hstanding : c.standing recover s with
    | otherChain => simp [hstanding]
    | usable => simpa [hstanding, counters_vote.2.1] using ih
    | _ => simpa [hstanding] using ih

theorem lastForeign?_eq_none_iff :
    lastForeign? s batch = none ↔ ∀ c ∈ batch, ¬ c.Foreign s := by
  simp only [lastForeign?, List.getLast?_eq_none_iff, List.filter_eq_nil_iff, decide_eq_true_eq]

/-- The last foreign claim is a foreign claim of the batch. -/
theorem foreign_of_lastForeign? {c : Claim} (h : lastForeign? s batch = some c) :
    c ∈ batch ∧ c.Foreign s := by
  simpa using List.mem_filter.1 (List.mem_of_getLast? h)

/-! ### What stands under a subject -/

/-- The usable claims for a subject are those that support its root, if the subject is of the
client's chain and its height passes the test. -/
private theorem filter_subject {p : UInt64 → Prop} [DecidablePred p] {k : Subject} :
    (batch.filter fun c => c.Usable recover s ∧ p c.snapshot.height).filter (·.subject = k) =
      if k.chainId = s.chainId ∧ p k.height then supporting recover s batch k.height k.root
      else [] := by
  have hsubject : ∀ c : Claim, c.subject = k ↔
      c.snapshot.chainId = k.chainId ∧ c.snapshot.height = k.height ∧ c.snapshot.root = k.root := by
    intro c
    cases k
    rw [Claim.subject, Subject.mk.injEq]
  rw [List.filter_filter]
  split_ifs with h
  · refine List.filter_congr fun c _ => ?_
    rw [← Bool.decide_and, decide_eq_decide, hsubject]
    constructor
    · rintro ⟨⟨-, hh, hr⟩, hu, -⟩
      exact ⟨hu, hh, hr⟩
    · rintro ⟨hu, hh, hr⟩
      exact ⟨⟨hu.1.trans h.1.symm, hh, hr⟩, hu, hh ▸ h.2⟩
  · refine List.filter_eq_nil_iff.2 fun c _ => ?_
    rw [← Bool.decide_and, decide_eq_true_iff, hsubject]
    rintro ⟨⟨hc, hh, -⟩, hu, hp⟩
    exact h ⟨hc.symm.trans hu.1, hh ▸ hp⟩

/-- Under a subject stand the votes of its supporting claims, if there are any. -/
theorem get?_votesWhere_eq_some_iff {p : UInt64 → Prop} [DecidablePred p] {k : Subject}
    {votes : Votes} :
    (votesWhere recover s batch p).get? k = some votes ↔
      (k.chainId = s.chainId ∧ p k.height) ∧ supporters recover s batch k.height k.root ≠ [] ∧
        votes = Votes.ofClaims (supporting recover s batch k.height k.root) := by
  rw [votesWhere, OrderedMap.get?_foldBy_getD, filter_subject, ne_eq, supporters_eq_nil_iff]
  by_cases h : k.chainId = s.chainId ∧ p k.height
  · rw [if_pos h]
    by_cases hnil : supporting recover s batch k.height k.root = []
    · simp [hnil]
    · rw [if_neg hnil, Option.some.injEq]
      exact ⟨fun he => ⟨h, hnil, he.symm⟩, fun he => he.2.2.symm⟩
  · simp [h]

/-- The voters for a root are its supporters. -/
theorem keys_ofClaims {height : UInt64} {root : Digest} :
    (Votes.ofClaims (supporting recover s batch height root)).keys =
      (supporters recover s batch height root).map (·.id) :=
  eq_of_increasing (OrderedMap.increasing_keys _) increasing_map_id_supporters fun id => by
    rw [Votes.mem_keys_ofClaims, mem_map_id_supporters]

/-- The votes for a root weigh what its supporters weigh. -/
theorem weigh_ofClaims {height : UInt64} {root : Digest} :
    s.weigh (Votes.ofClaims (supporting recover s batch height root)) =
      s.policy.weightOfAll (supporters recover s batch height root) := by
  rw [ClientState.weigh, keys_ofClaims, AttestorSet.filterMap_find?_ids]
  exact fun a ha => (mem_supporters.1 ha).1

end Attestation
