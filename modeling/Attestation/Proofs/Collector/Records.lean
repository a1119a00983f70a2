import Attestation.Proofs.Collector.History

/-!
# Histories keep the newest records

A claim is a record if it stands above all claims that came before it. A history compares a claim
with its newest one only, which decides the same because the newest record is the highest of all
claims so far (`le_newest_record`). So what is ignored is exactly what is no record, and a history
into which any claims were pushed, in whatever order, is made of the newest records
(`afterPushes_eq_ofNewest`).
-/

namespace Attestation

/-- A claim stands above all claims of a list. -/
abbrev Claim.IsAbove (c : Claim) (earlier : List Claim) : Prop :=
  ∀ e ∈ earlier, e.snapshot.height < c.snapshot.height

/-- The claims of a list that stand above all claims in front of them. -/
def records (pushed : List Claim) : List Claim :=
  (pushed.zipIdx.filter fun e => e.1.IsAbove (pushed.take e.2)).map (·.1)

variable {pushed : List Claim} {c : Claim} {capacity : Nat}

/-! ### Records -/

/-- A claim adds a record if it is above all pushed before it. -/
private theorem records_append_singleton :
    records (pushed ++ [c]) = records pushed ++ if c.IsAbove pushed then [c] else [] := by
  rw [records, List.zipIdx_append, List.filter_append, List.map_append, records]
  congr 1
  · -- the claims in front of an old one are the same as before
    congr 1
    refine List.filter_congr fun e he => ?_
    rw [List.take_append_of_le_length (List.mem_zipIdx' he).1.le]
  · rw [Nat.zero_add, List.zipIdx_singleton, List.filter_singleton, List.take_left' rfl]
    by_cases h : c.IsAbove pushed
    · rw [if_pos h, decide_eq_true h]
      rfl
    · rw [if_neg h, decide_eq_false h]
      rfl

private theorem mem_of_mem_records (h : c ∈ records pushed) : c ∈ pushed := by
  obtain ⟨e, he, rfl⟩ := List.mem_map.1 h
  exact List.fst_mem_of_mem_zipIdx (List.mem_of_mem_filter he)

/-- The heights of records strictly increase. -/
theorem rising_records (pushed : List Claim) : Rising (records pushed) := by
  induction pushed using List.reverseRecOn with
  | nil => exact List.Pairwise.nil
  | append_singleton pushed c ih =>
    rw [records_append_singleton]
    split_ifs with habove
    · refine List.pairwise_append.2 ⟨ih, List.pairwise_singleton .., fun e he c' hc' => ?_⟩
      rw [List.mem_singleton.1 hc']
      exact habove e (mem_of_mem_records he)
    · rwa [List.append_nil]

/-- The newest record is the highest of all claims so far. -/
theorem le_newest_record {e : Claim} (he : e ∈ pushed) :
    ∃ newest ∈ (records pushed).getLast?, e.snapshot.height ≤ newest.snapshot.height := by
  induction pushed using List.reverseRecOn generalizing e with
  | nil => contradiction
  | append_singleton pushed c ih =>
    rw [records_append_singleton]
    split_ifs with habove
    · refine ⟨c, List.getLast?_concat, ?_⟩
      rcases List.mem_append.1 he with he | he
      · exact UInt64.le_of_lt (habove e he)
      · rw [List.mem_singleton.1 he]
        exact UInt64.le_refl _
    · rw [List.append_nil]
      rcases List.mem_append.1 he with he | he
      · exact ih he
      · -- what is no record is not above some claim, and the newest record is not below that one
        obtain ⟨e', he', hle⟩ : ∃ e' ∈ pushed, c.snapshot.height ≤ e'.snapshot.height := by
          simpa using habove
        obtain ⟨newest, hnewest, hle'⟩ := ih he'
        exact ⟨newest, hnewest, List.mem_singleton.1 he ▸ UInt64.le_trans hle hle'⟩

/-! ### Pushing any claims -/

namespace ClaimHistory

/-- A claim is compared with the newest record in place of all claims so far. -/
private theorem push_records (hpos : 0 < capacity) (pushed : List Claim) (c : Claim) :
    (ofNewest capacity (records pushed)).push c =
      ofNewest capacity (records (pushed ++ [c])) := by
  rw [records_append_singleton]
  split_ifs with habove
  · exact push_ofNewest hpos fun newest hnewest =>
      habove newest (mem_of_mem_records (List.mem_of_getLast? hnewest))
  · obtain ⟨e, he, hle⟩ : ∃ e ∈ pushed, c.snapshot.height ≤ e.snapshot.height := by
      simpa using habove
    obtain ⟨newest, hnewest, hle'⟩ := le_newest_record he
    rw [List.append_nil]
    exact push_of_le ((getLast?_ofNewest hpos).symm ▸ hnewest) (UInt64.le_trans hle hle')

/-- The history after claims were pushed in turn. -/
def afterPushes (h : ClaimHistory) (pushed : List Claim) : ClaimHistory := pushed.foldl push h

/-- A history holds the newest of the records, as many as it has room for. -/
theorem afterPushes_eq_ofNewest (size : Nat) (pushed : List Claim) :
    (empty size).afterPushes pushed = ofNewest (max 1 size) (records pushed) := by
  induction pushed using List.reverseRecOn with
  | nil => exact empty_eq_ofNewest size
  | append_singleton pushed c ih =>
    rw [afterPushes, List.foldl_concat, ← afterPushes, ih]
    exact push_records (Nat.lt_of_lt_of_le Nat.one_pos (Nat.le_max_left 1 size)) pushed c

/-- **A history keeps the newest records.** Whatever claims are pushed, in any order and with some
heights again and again, the history holds the newest of those that stand above all claims pushed
before them, one at least and as many as there is room for, with strictly increasing heights. A
height finds the claim that is kept there and nothing else. From a height on the history is listed
to its end, which has all claims that are not below the height, and what a height finds in this
listing is what it finds in the history. -/
theorem keeps_newest_records (size : Nat) (pushed : List Claim) :
    let history := (empty size).afterPushes pushed
    history.claims = (records pushed).rtake (max 1 size) ∧
    history.claims.Pairwise (·.snapshot.height < ·.snapshot.height) ∧
    ∀ height,
      (∀ c, history.at? height = some c ↔ c ∈ history.claims ∧ c.snapshot.height = height) ∧
      history.since height <:+ history.claims ∧
      (∀ c, c ∈ history.since height ↔ c ∈ history.claims ∧ height ≤ c.snapshot.height) ∧
      ∀ height', (history.since height).find? (·.snapshot.height = height') =
        if height ≤ height' then history.at? height' else none := by
  intro history
  have hnewest : history = ofNewest (max 1 size) (records pushed) :=
    afterPushes_eq_ofNewest size pushed
  have hrising : Rising history.claims := hnewest ▸ rising_ofNewest (rising_records pushed)
  exact ⟨congrArg claims hnewest, hrising, fun height => ⟨fun c => at?_eq_some_iff hrising,
    since_suffix hrising height, fun c => mem_since, find?_since hrising height⟩⟩

/-- Of five claims three are records, and there is room for two of these. -/
example :
    let claim (height : UInt64) : Claim := ⟨⟨"chain-a", height, .replicate 32 1, 0⟩, "ann", []⟩
    ((empty 2).afterPushes [claim 3, claim 5, claim 4, claim 5, claim 8]).claims =
      [claim 5, claim 8] := by
  decide

end ClaimHistory

end Attestation
