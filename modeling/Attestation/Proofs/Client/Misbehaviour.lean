import Attestation.Proofs.Client.Safety

/-!
# Detection of forks

A fork is a height at which two roots have a quorum. Whether a batch of claims proves one is read
off the verdict on the batch, and a verdict looks at the heights above the trusted one only. There
no fork is missed, however the claims for it are mixed with others (`fork_found_above_head`). What
is claimed for the trusted height and below makes no difference (`conflictingQuorum?_aboveHead`), so
a fork at a height that is trusted already is not noticed (`fork_missed_at_head`).
-/

namespace Attestation

section Batch

variable (recover : Recovery) (s : ClientState) (batch : List Claim)

/-- Two roots have a quorum at a height. -/
def Forked (height : UInt64) : Prop :=
  ∃ root root', root ≠ root' ∧ HasQuorum recover s batch height root ∧
    HasQuorum recover s batch height root'

/-- The claims of a batch for heights above the trusted one. -/
def aboveHead : List Claim := batch.filter (s.latestHeight < ·.snapshot.height)

end Batch

variable {recover : Recovery} {s : ClientState} {batch : List Claim} {height : UInt64}

/-- Two quorums at a height are a conflict. -/
theorem Forked.conflict (h : Forked recover s batch height) : Conflict recover s batch height := by
  obtain ⟨root, root', hne, hquorum, hquorum'⟩ := h
  exact ⟨root, hquorum, .inl ⟨root', hne.symm, hquorum'⟩⟩

/-! ### Reported conflicts -/

/-- The lowest height in conflict above the trusted one is reported. -/
theorem conflictingQuorum?_eq_some_iff :
    conflictingQuorum? recover s batch = some height ↔
      IsLeast {h | s.latestHeight < h ∧ Conflict recover s batch h} height := by
  rw [← (judged_aggregate recover s batch).conflict_iff, conflictingQuorum?]
  constructor
  · intro h
    split at h
    · rename_i found hresult
      rw [hresult, Option.some.inj h]
    · contradiction
  · intro h
    rw [h]

/-- A conflicting height is named exactly if there is one above the trusted height. -/
theorem isSome_conflictingQuorum?_iff :
    (conflictingQuorum? recover s batch).isSome ↔
      ∃ height, s.latestHeight < height ∧ Conflict recover s batch height := by
  rw [← (judged_aggregate recover s batch).exists_conflict_iff, Option.isSome_iff_exists]
  simp only [conflictingQuorum?_eq_some_iff, (judged_aggregate recover s batch).conflict_iff]

/-- A batch is misbehaviour exactly if it holds a conflict above the trusted height. -/
theorem Client.checkForMisbehaviour_iff {c : Client} :
    c.checkForMisbehaviour recover batch = true ↔
      ∃ height, c.state.latestHeight < height ∧ Conflict recover c.state batch height :=
  isSome_conflictingQuorum?_iff

/-- **Forks above the trusted height are found.** If two roots have a quorum at a height above the
trusted one, a conflict is reported at that height or at a lower one, whether or not the client is
frozen, and the batch counts as misbehaviour. -/
theorem fork_found_above_head {c : Client} (hfresh : c.state.latestHeight < height)
    (hfork : Forked recover c.state batch height) :
    (∃ found, conflictingQuorum? recover c.state batch = some found ∧
      c.state.latestHeight < found ∧ found ≤ height) ∧
    c.checkForMisbehaviour recover batch = true := by
  have hconflict : Conflict recover c.state batch height := hfork.conflict
  obtain ⟨found, hfound⟩ := Option.isSome_iff_exists.1
    (isSome_conflictingQuorum?_iff.2 ⟨height, hfresh, hconflict⟩)
  have hleast := conflictingQuorum?_eq_some_iff.1 hfound
  exact ⟨⟨found, hfound, hleast.1.1, hleast.2 ⟨hfresh, hconflict⟩⟩,
    Client.checkForMisbehaviour_iff.2 ⟨height, hfresh, hconflict⟩⟩

/-! ### Claims that are not looked at -/

/-- Claims for other heights support nothing above the trusted height. -/
private theorem supporters_aboveHead (hfresh : s.latestHeight < height) {root : Digest} :
    supporters recover s (aboveHead s batch) height root =
      supporters recover s batch height root := by
  have hsupporting : supporting recover s (aboveHead s batch) height root =
      supporting recover s batch height root := by
    rw [supporting, aboveHead, List.filter_filter]
    refine List.filter_congr fun c _ => ?_
    rw [← Bool.decide_and, decide_eq_decide]
    exact ⟨fun h => h.1, fun h => ⟨h, h.2.1 ▸ hfresh⟩⟩
  rw [supporters, supporters, hsupporting]

/-- Claims at or below the trusted height add nothing to a conflict above it. -/
private theorem conflict_aboveHead_iff (hfresh : s.latestHeight < height) :
    Conflict recover s (aboveHead s batch) height ↔ Conflict recover s batch height := by
  simp only [Conflict, HasQuorum, Equivocated, support, supporters_aboveHead hfresh]

/-- What is claimed for the trusted height and below makes no difference. -/
theorem conflictingQuorum?_aboveHead (recover : Recovery) (s : ClientState) (batch : List Claim) :
    conflictingQuorum? recover s (aboveHead s batch) = conflictingQuorum? recover s batch := by
  have hheights : {h | s.latestHeight < h ∧ Conflict recover s (aboveHead s batch) h} =
      {h | s.latestHeight < h ∧ Conflict recover s batch h} :=
    Set.ext fun h => and_congr_right conflict_aboveHead_iff
  refine Option.ext fun height => ?_
  rw [conflictingQuorum?_eq_some_iff, conflictingQuorum?_eq_some_iff, hheights]

/-! ### A fork before and after its height is trusted -/

namespace Client.ThreeVoters

/-- Ann and Bob state a root at height five, Bob and Eve another one. -/
def fork : List Claim :=
  [claim "ann" 1 5 (trueRoot 5), claim "bob" 2 5 (trueRoot 5), claim "bob" 2 5 (trueRoot 6),
    claim "eve" 3 5 (trueRoot 6)]

/-- The client that adopted the root of Ann and Bob. -/
def settled : Client := (update readSigner ⟨start, .empty⟩ (fork.take 2)).1

/-- The fork is there for every client with these voters. -/
private theorem forked_fork (s : ClientState) (h : SameVoters start s) :
    Forked readSigner s fork 5 := by
  refine ⟨trueRoot 5, trueRoot 6, by decide, h.hasQuorum_iff.2 ⟨?_, ?_⟩,
    h.hasQuorum_iff.2 ⟨?_, ?_⟩⟩ <;> decide +kernel

end Client.ThreeVoters

open Client.ThreeVoters in
/-- A client that trusts nothing yet finds the fork. -/
theorem fork_found_above_head_five :
    (0 : UInt64) < 5 ∧ Forked readSigner start fork 5 ∧
    (∃ found, conflictingQuorum? readSigner start fork = some found ∧ 0 < found ∧ found ≤ 5) ∧
    Client.checkForMisbehaviour readSigner ⟨start, .empty⟩ fork = true := by
  have hfresh : (0 : UInt64) < 5 := by decide
  have hfork : Forked readSigner start fork 5 := forked_fork start ⟨rfl, rfl, rfl⟩
  exact ⟨hfresh, hfork, fork_found_above_head (c := ⟨start, .empty⟩) hfresh hfork⟩

open Client.ThreeVoters in
/-- Once the client has adopted one of the two roots, the same fork is not noticed. -/
theorem fork_missed_at_head :
    settled.state.latestHeight = 5 ∧ Forked readSigner settled.state fork 5 ∧
    conflictingQuorum? readSigner settled.state fork = none ∧
    settled.checkForMisbehaviour readSigner fork = false := by
  have hvoters : Client.SameVoters start settled.state :=
    (Client.updateStep_update readSigner ⟨start, .empty⟩ (fork.take 2)).sameVoters
  refine ⟨by decide +kernel, forked_fork settled.state hvoters, ?_, ?_⟩
  · decide +kernel
  · decide +kernel

end Attestation
