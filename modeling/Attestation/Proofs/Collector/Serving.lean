import Attestation.Proofs.Collector.Consistency
import Attestation.Proofs.Collector.History

/-!
# Collectors serve what they signed

A collector keeps the claim signed last beside the history, and both are written whenever it signs.
At every point of a run they come of one list, that of the claims signed so far: its last claim and
its newest ones (`ClaimCollector.Publishes`). The history takes a claim only if it is above its
newest one. This is never in the way, since a collector signs only above the claim signed last, but
it takes both facts at once to see it.
-/

namespace Attestation.ClaimCollector

variable {c : ClaimCollector} {k : Cycle} {cycles : List Cycle} {signed : List Claim} {size : Nat}

/-! ### What was signed in a run -/

private theorem afterCycles_append_singleton :
    c.afterCycles (cycles ++ [k]) = ((c.afterCycles cycles).runCycle k).1 :=
  List.foldl_concat _ _ _ _

private theorem results_append_singleton :
    c.results (cycles ++ [k]) = c.results cycles ++ [((c.afterCycles cycles).runCycle k).2] := by
  induction cycles generalizing c with
  | nil => rfl
  | cons k' cycles ih =>
    rw [List.cons_append, results, ih, results]
    rfl

/-- A cycle adds the claim that it signed. -/
private theorem signedIn_append_singleton :
    c.signedIn (cycles ++ [k]) =
      c.signedIn cycles ++ (signed? ((c.afterCycles cycles).runCycle k).2).toList := by
  rw [signedIn, results_append_singleton, List.filterMap_append, signedIn]
  rfl

/-! ### What is published -/

/-- A collector publishes the last of the claims that it signed and, as far as there is room, the
newest of them. -/
structure Publishes (c : ClaimCollector) (size : Nat) (signed : List Claim) : Prop where
  latest : c.latest = signed.getLast?
  history : c.history = .ofNewest (max 1 size) signed

private theorem publishes_new (chainId : String) (size : Nat) :
    (new chainId size).Publishes size [] where
  latest := rfl
  history := ClaimHistory.empty_eq_ofNewest size

/-- A cycle adds to what is published the claim that it signs, if it signs one. -/
theorem Publishes.runCycle (h : c.Publishes size signed) (k : Cycle) :
    (c.runCycle k).1.Publishes size (signed ++ (signed? (c.runCycle k).2).toList) := by
  rcases publishes_runCycle c k with
    ⟨hnone, hlatest, hhistory⟩ | ⟨claim, hsome, hlatest, hhistory, habove⟩
  · rw [hnone, Option.toList_none, List.append_nil]
    exact ⟨hlatest.trans h.latest, hhistory.trans h.history⟩
  · rw [hsome, Option.toList_some]
    have hnewest : ∀ newest ∈ signed.getLast?, newest.snapshot.height < claim.snapshot.height :=
      h.latest ▸ habove
    constructor
    · rw [hlatest, List.getLast?_concat]
    · rw [hhistory, h.history]
      exact ClaimHistory.push_ofNewest (Nat.lt_of_lt_of_le Nat.one_pos (Nat.le_max_left 1 size))
        hnewest

/-- At every point of a run the signed claims are published. -/
theorem publishes_afterCycles (chainId : String) (size : Nat) (cycles : List Cycle) :
    ((new chainId size).afterCycles cycles).Publishes size
      ((new chainId size).signedIn cycles) := by
  induction cycles using List.reverseRecOn with
  | nil => exact publishes_new chainId size
  | append_singleton cycles k ih =>
    rw [afterCycles_append_singleton, signedIn_append_singleton]
    exact ih.runCycle k

/-- **What is served is what was signed.** At every point of a run, whatever is observed and whether
or not signing succeeds, the claim served as the latest one is the one signed last, and the history
is made of the claims signed last, one at least and as many as there is room for. A height finds the
claim of the history at that height and nothing if there is none, and from a height on all claims of
the history are listed with strictly increasing heights. -/
theorem serves_what_was_signed (chainId : String) (size : Nat) (cycles : List Cycle) :
    let signed := (new chainId size).signedIn cycles
    let c := (new chainId size).afterCycles cycles
    c.latest = signed.getLast? ∧
    c.history.claims = signed.rtake (max 1 size) ∧
    c.history.claims.getLast? = c.latest ∧
    ∀ height,
      (∀ claim, c.history.at? height = some claim ↔
        claim ∈ c.history.claims ∧ claim.snapshot.height = height) ∧
      (∀ claim, claim ∈ c.history.since height ↔
        claim ∈ c.history.claims ∧ height ≤ claim.snapshot.height) ∧
      (c.history.since height).Pairwise (·.snapshot.height < ·.snapshot.height) := by
  intro signed c
  obtain ⟨hlatest, hhistory⟩ := publishes_afterCycles chainId size cycles
  have hsigned : Rising signed := increasing_latest_append_signedIn (new chainId size) cycles
  have hrising : Rising c.history.claims := hhistory ▸ ClaimHistory.rising_ofNewest hsigned
  refine ⟨hlatest, congrArg ClaimHistory.claims hhistory, ?_, fun height => ⟨fun claim => ?_,
    fun claim => ?_, ?_⟩⟩
  · rw [hlatest, hhistory]
    exact ClaimHistory.getLast?_ofNewest (Nat.lt_of_lt_of_le Nat.one_pos (Nat.le_max_left 1 size))
  · exact ClaimHistory.at?_eq_some_iff hrising
  · exact ClaimHistory.mem_since
  · exact ClaimHistory.rising_since hrising height

end Attestation.ClaimCollector
