import Attestation.Collector.Claims
import Mathlib.Data.List.Basic
import Mathlib.Logic.Basic

/-!
# Collectors do not contradict themselves

A collector goes through one cycle after another, in each of which it observes its chain and may
sign what it sees. `CycleStep` says all that a cycle can come to and is the only place where the
cycle is opened. It signs above the height signed last and nowhere else, so the heights of what it
signs increase along every run (`increasing_latest_append_signedIn`); the one way to halt is to see
another root at that height (`contradicted_or_idle`), and a collector that has halted does nothing
any more. The observations are arbitrary, and signing may fail in any cycle.
-/

namespace Attestation

private theorem ClaimSigner.snapshot_of_sign {signer : ClaimSigner} {snapshot : Snapshot}
    {claim : Claim} (h : signer.sign snapshot = .ok claim) : claim.snapshot = snapshot := by
  rw [sign] at h
  cases hmessage : snapshot.signable? with
  | none =>
    rw [hmessage] at h
    contradiction
  | some message =>
    rw [hmessage] at h
    rw [← Except.ok.inj h]

namespace ClaimCollector

/-! ### Cycles -/

/-- What a collector meets in one cycle. Signing may fail, but a claim is about the snapshot that
was to be signed. -/
structure Cycle where
  /-- What is observed of the chain. -/
  seen : Except SourceError Snapshot
  /-- How snapshots are signed. -/
  sign : Snapshot → Except SigningError Claim
  snapshot_eq {snapshot : Snapshot} {claim : Claim} (h : sign snapshot = .ok claim) :
    claim.snapshot = snapshot

/-- A cycle in which a signer has its key. -/
def Cycle.of (signer : ClaimSigner) (seen : Except SourceError Snapshot) : Cycle :=
  ⟨seen, signer.sign, ClaimSigner.snapshot_of_sign⟩

/-- The collector after a cycle, and what the cycle came to. -/
def runCycle (c : ClaimCollector) (k : Cycle) : ClaimCollector × Except CollectionError Collected :=
  c.collect k.sign k.seen

/-- The collector after a cycle without a claim or a failure. -/
def rest (c : ClaimCollector) : ClaimCollector := { c with phase := .idle }

/-- A snapshot is new to a collector if it is above the height signed last. -/
def IsNew (c : ClaimCollector) (snapshot : Snapshot) : Prop :=
  ∀ latest ∈ c.latest, latest.snapshot.height < snapshot.height

/-- What a cycle does to a collector. -/
inductive CycleStep (c : ClaimCollector) (k : Cycle) :
    ClaimCollector × Except CollectionError Collected → Prop
  /-- A collector that has halted looks at nothing. -/
  | stopped {height : UInt64} (phase : c.phase = .halted height) :
      CycleStep c k (c, .error (.halted c.chainId))
  /-- The observation fails. -/
  | unseen {cause : SourceError} (running : c.isHalted = false) (seen : k.seen = .error cause) :
      CycleStep c k (c.fail, .error (.source cause))
  /-- The chain is behind what was signed. -/
  | behind {snapshot : Snapshot} {latest : Claim} (running : c.isHalted = false)
      (seen : k.seen = .ok snapshot) (signed : c.latest = some latest)
      (lower : snapshot.height < latest.snapshot.height) :
      CycleStep c k (c.rest, .ok (.skipped snapshot.height latest.snapshot.height))
  /-- The chain shows what was signed. -/
  | known {snapshot : Snapshot} {latest : Claim} (running : c.isHalted = false)
      (seen : k.seen = .ok snapshot) (signed : c.latest = some latest)
      (height : snapshot.height = latest.snapshot.height)
      (root : snapshot.root = latest.snapshot.root) :
      CycleStep c k (c.rest, .ok (.unchanged snapshot.height))
  /-- The chain shows another root at the height signed last. -/
  | contradicted {snapshot : Snapshot} {latest : Claim} (running : c.isHalted = false)
      (seen : k.seen = .ok snapshot) (signed : c.latest = some latest)
      (height : snapshot.height = latest.snapshot.height)
      (root : snapshot.root ≠ latest.snapshot.root) :
      CycleStep c k (c.halt snapshot.height,
        .error (.contradiction c.chainId snapshot.height latest.snapshot.root snapshot.root))
  /-- A new snapshot cannot be signed. -/
  | unsigned {snapshot : Snapshot} {cause : SigningError} (running : c.isHalted = false)
      (seen : k.seen = .ok snapshot) (new : c.IsNew snapshot)
      (sign : k.sign snapshot = .error cause) :
      CycleStep c k (c.fail, .error (.signing cause))
  /-- A new snapshot is signed. -/
  | signed {snapshot : Snapshot} {claim : Claim} (running : c.isHalted = false)
      (seen : k.seen = .ok snapshot) (new : c.IsNew snapshot)
      (sign : k.sign snapshot = .ok claim) :
      CycleStep c k (c.publish claim, .ok (.signed claim))

variable {c : ClaimCollector} {k : Cycle} {cycles : List Cycle} {height : UInt64}

private theorem isHalted_iff : c.isHalted ↔ ∃ height, c.phase = .halted height := by
  rw [isHalted]
  cases c.phase <;> simp

/-- Signing a new snapshot is a step, whether the signer succeeds or not. -/
private theorem cycleStep_attest {snapshot : Snapshot} (running : c.isHalted = false)
    (seen : k.seen = .ok snapshot) (new : c.IsNew snapshot) :
    CycleStep c k (c.start.attest k.sign snapshot) := by
  rw [attest]
  cases hsign : k.sign snapshot with
  | error cause => exact .unsigned running seen new hsign
  | ok claim => exact .signed running seen new hsign

/-- Every cycle makes one of the steps. -/
theorem cycleStep_runCycle (c : ClaimCollector) (k : Cycle) : CycleStep c k (c.runCycle k) := by
  rw [runCycle, collect]
  cases hhalted : c.isHalted with
  | true =>
    obtain ⟨height, hphase⟩ := isHalted_iff.1 hhalted
    exact .stopped hphase
  | false =>
    rw [if_neg Bool.false_ne_true]
    cases hseen : k.seen with
    | error cause => exact .unseen hhalted hseen
    | ok snapshot =>
      rw [finish]
      dsimp only
      split
      · rename_i hlatest
        have hnew : c.IsNew snapshot := fun latest hmem => nomatch hlatest.symm.trans hmem
        exact cycleStep_attest hhalted hseen hnew
      · rename_i latest hlatest
        split_ifs with hlower hheight hroot
        · exact .behind hhalted hseen hlatest hlower
        · exact .known hhalted hseen hlatest hheight hroot
        · exact .contradicted hhalted hseen hlatest hheight hroot
        · -- neither below nor at the height signed last
          have hle := UInt64.not_lt.1 hlower
          have hnew : c.IsNew snapshot := by
            intro latest' hmem
            obtain rfl := Option.some.inj (hlatest.symm.trans hmem)
            exact UInt64.lt_of_le_of_ne hle (Ne.symm hheight)
          exact cycleStep_attest hhalted hseen hnew

/-! ### What a cycle keeps to -/

/-- Another root is observed at the height signed last. -/
structure Contradicts (c : ClaimCollector) (k : Cycle) (height : UInt64)
    (signed observed : Digest) : Prop where
  latest : ∃ latest ∈ c.latest, latest.snapshot.height = height ∧ latest.snapshot.root = signed
  seen : ∃ snapshot, k.seen = .ok snapshot ∧ snapshot.height = height ∧ snapshot.root = observed
  differs : signed ≠ observed

/-- The claim that a cycle signed. -/
def signed? : Except CollectionError Collected → Option Claim
  | .ok (.signed claim) => some claim
  | _ => none

/-- What a cycle keeps to, whatever it meets. -/
structure Keeps (c : ClaimCollector) (k : Cycle) : Prop where
  /-- Afterwards the collector is idle or has halted. -/
  settled : (c.runCycle k).1.phase = .idle ∨ ∃ height, (c.runCycle k).1.phase = .halted height
  /-- A running collector reports a contradiction exactly if there is one. -/
  reports_iff (running : c.isHalted = false) (chainId : String) (height : UInt64)
    (signed observed : Digest) :
    (c.runCycle k).2 = .error (.contradiction chainId height signed observed) ↔
      chainId = c.chainId ∧ c.Contradicts k height signed observed
  /-- A running collector halts exactly at the height of a contradiction. -/
  halts_iff (running : c.isHalted = false) (height : UInt64) :
    (c.runCycle k).1.phase = .halted height ↔
      ∃ signed observed, c.Contradicts k height signed observed
  /-- A collector that has halted does nothing. -/
  halted (stopped : c.isHalted = true) : c.runCycle k = (c, .error (.halted c.chainId))
  /-- Without a signature nothing is published. -/
  unsigned (unsigned : signed? (c.runCycle k).2 = none) :
    (c.runCycle k).1.latest = c.latest ∧ (c.runCycle k).1.history = c.history

/-- An observation contradicts the signed claim if it is at its height and has another root. -/
private theorem contradicts_iff {latest : Claim} {snapshot : Snapshot}
    (hlatest : c.latest = some latest) (seen : k.seen = .ok snapshot) {signed observed : Digest} :
    c.Contradicts k height signed observed ↔
      (latest.snapshot.height = height ∧ latest.snapshot.root = signed) ∧
        (snapshot.height = height ∧ snapshot.root = observed) ∧ signed ≠ observed := by
  constructor
  · rintro ⟨⟨latest', hmem, hsigned⟩, ⟨snapshot', hseen, hobserved⟩, hne⟩
    obtain rfl := Option.some.inj (hlatest.symm.trans hmem)
    obtain rfl := Except.ok.inj (seen.symm.trans hseen)
    exact ⟨hsigned, hobserved, hne⟩
  · rintro ⟨hsigned, hobserved, hne⟩
    exact ⟨⟨latest, hlatest, hsigned⟩, ⟨snapshot, seen, hobserved⟩, hne⟩

/-- What is above the signed height contradicts nothing. -/
private theorem IsNew.not_contradicts {snapshot : Snapshot} (hnew : c.IsNew snapshot)
    (seen : k.seen = .ok snapshot) {signed observed : Digest} :
    ¬ c.Contradicts k height signed observed := by
  intro h
  obtain ⟨latest, hlatest, -⟩ := h.latest
  obtain ⟨⟨rfl, -⟩, ⟨hheight, -⟩, -⟩ := (contradicts_iff hlatest seen).1 h
  have hlt := hnew latest hlatest
  rw [hheight] at hlt
  exact UInt64.lt_irrefl _ hlt

/-- A running collector sees a contradiction, reports it and halts, or sees none and is idle. -/
theorem contradicted_or_idle (running : c.isHalted = false) :
    (∃ height signed observed, c.Contradicts k height signed observed ∧
      c.runCycle k = (c.halt height, .error (.contradiction c.chainId height signed observed))) ∨
    (∀ height signed observed, ¬ c.Contradicts k height signed observed) ∧
      (c.runCycle k).1.phase = .idle ∧ ∀ chainId height signed observed,
        (c.runCycle k).2 ≠ .error (.contradiction chainId height signed observed) := by
  have hstep := cycleStep_runCycle c k
  generalize c.runCycle k = out at hstep ⊢
  -- one way for a cycle to end is a contradiction; in all others what was seen excludes one
  cases hstep with
  | stopped phase =>
    have hhalted := isHalted_iff.2 ⟨_, phase⟩
    rw [running] at hhalted
    contradiction
  | unseen _ seen =>
    refine .inr ⟨fun height signed observed h => ?_, rfl, nofun⟩
    obtain ⟨snapshot, hseen, -⟩ := h.seen
    rw [seen] at hseen
    contradiction
  | @behind snapshot latest _ seen signed lower =>
    refine .inr ⟨fun height root observed h => ?_, rfl, nofun⟩
    obtain ⟨⟨rfl, -⟩, ⟨hheight, -⟩, -⟩ := (contradicts_iff signed seen).1 h
    exact UInt64.ne_of_lt lower hheight
  | known _ seen signed _ root =>
    refine .inr ⟨fun height signedRoot observed h => ?_, rfl, nofun⟩
    obtain ⟨⟨-, rfl⟩, ⟨-, rfl⟩, hne⟩ := (contradicts_iff signed seen).1 h
    exact hne root.symm
  | contradicted _ seen signed height root =>
    refine .inl ⟨_, _, _, ?_, rfl⟩
    exact (contradicts_iff signed seen).2 ⟨⟨height.symm, rfl⟩, ⟨rfl, rfl⟩, root.symm⟩
  | unsigned _ seen new =>
    exact .inr ⟨fun height signed observed => new.not_contradicts seen, rfl, nofun⟩
  | signed _ seen new =>
    exact .inr ⟨fun height signed observed => new.not_contradicts seen, rfl, nofun⟩

/-- A cycle has at most one contradiction. -/
theorem Contradicts.unique {height' : UInt64} {signed signed' observed observed' : Digest}
    (h : c.Contradicts k height signed observed) (h' : c.Contradicts k height' signed' observed') :
    height' = height ∧ signed' = signed ∧ observed' = observed := by
  obtain ⟨latest, hlatest, -⟩ := h.latest
  obtain ⟨snapshot, hseen, -⟩ := h.seen
  obtain ⟨⟨rfl, rfl⟩, ⟨-, rfl⟩, -⟩ := (contradicts_iff hlatest hseen).1 h
  obtain ⟨⟨rfl, rfl⟩, ⟨-, rfl⟩, -⟩ := (contradicts_iff hlatest hseen).1 h'
  exact ⟨rfl, rfl, rfl⟩

/-- A halted collector does nothing but say so. -/
private theorem runCycle_of_isHalted (h : c.isHalted) :
    c.runCycle k = (c, .error (.halted c.chainId)) := if_pos h

/-- Every cycle of every collector keeps the rules. -/
theorem keeps (c : ClaimCollector) (k : Cycle) : c.Keeps k where
  settled := by
    cases hhalted : c.isHalted with
    | true =>
      rw [runCycle_of_isHalted hhalted]
      exact .inr (isHalted_iff.1 hhalted)
    | false =>
      rcases contradicted_or_idle hhalted with ⟨height, _, _, -, hrun⟩ | ⟨-, hidle, -⟩
      · rw [hrun]
        exact .inr ⟨height, rfl⟩
      · exact .inl hidle
  reports_iff running chainId height signed observed := by
    rcases contradicted_or_idle running with ⟨_, _, _, h, hrun⟩ | ⟨hnone, -, hresult⟩
    · rw [hrun]
      constructor
      · intro heq
        obtain ⟨rfl, rfl, rfl, rfl⟩ := CollectionError.contradiction.inj (Except.error.inj heq)
        exact ⟨rfl, h⟩
      · rintro ⟨rfl, h'⟩
        obtain ⟨rfl, rfl, rfl⟩ := h.unique h'
        rfl
    · exact iff_of_false (hresult _ _ _ _) fun h => hnone _ _ _ h.2
  halts_iff running height := by
    rcases contradicted_or_idle running with ⟨_, _, _, h, hrun⟩ | ⟨hnone, hidle, -⟩
    · rw [hrun]
      constructor
      · intro hphase
        obtain rfl := Phase.halted.inj hphase
        exact ⟨_, _, h⟩
      · rintro ⟨_, _, h'⟩
        obtain ⟨rfl, -⟩ := h.unique h'
        rfl
    · rw [hidle]
      exact iff_of_false nofun fun ⟨_, _, h⟩ => hnone _ _ _ h
  halted := runCycle_of_isHalted
  unsigned unsigned := by
    have hstep := cycleStep_runCycle c k
    generalize c.runCycle k = out at hstep unsigned ⊢
    cases hstep with
    | signed => contradiction
    | _ => exact ⟨rfl, rfl⟩

/-! ### Runs -/

/-- The collector after a run of cycles. -/
def afterCycles (c : ClaimCollector) (cycles : List Cycle) : ClaimCollector :=
  cycles.foldl (fun c k => (c.runCycle k).1) c

/-- What the cycles of a run came to. -/
def results (c : ClaimCollector) : List Cycle → List (Except CollectionError Collected)
  | [] => []
  | k :: cycles => (c.runCycle k).2 :: (c.runCycle k).1.results cycles

/-- The claims signed in a run. -/
def signedIn (c : ClaimCollector) (cycles : List Cycle) : List Claim :=
  (c.results cycles).filterMap signed?

/-- A cycle that signs publishes a claim above the one signed last, any other leaves what is
published. -/
theorem publishes_runCycle (c : ClaimCollector) (k : Cycle) :
    (signed? (c.runCycle k).2 = none ∧ (c.runCycle k).1.latest = c.latest ∧
        (c.runCycle k).1.history = c.history) ∨
      ∃ claim, signed? (c.runCycle k).2 = some claim ∧ (c.runCycle k).1.latest = some claim ∧
        (c.runCycle k).1.history = c.history.push claim ∧
        ∀ latest ∈ c.latest, latest.snapshot.height < claim.snapshot.height := by
  have hstep := cycleStep_runCycle c k
  generalize c.runCycle k = out at hstep ⊢
  cases hstep with
  | @signed snapshot claim _ _ new sign =>
    refine .inr ⟨claim, rfl, rfl, rfl, ?_⟩
    rw [k.snapshot_eq sign]
    exact new
  | _ => exact .inl ⟨rfl, rfl, rfl⟩

/-- What is signed in a run is above what was signed before it, and increases. -/
theorem increasing_latest_append_signedIn (c : ClaimCollector) (cycles : List Cycle) :
    (c.latest.toList ++ c.signedIn cycles).Pairwise (·.snapshot.height < ·.snapshot.height) := by
  -- by induction on the cycles; what each leaves as the claim signed last bounds the rest
  induction cycles generalizing c with
  | nil => cases c.latest <;> simp [signedIn, results]
  | cons k cycles ih =>
    have hrest := ih (c.runCycle k).1
    rw [signedIn, results, List.filterMap_cons]
    rcases publishes_runCycle c k with ⟨hnone, hlatest, -⟩ | ⟨claim, hsome, hlatest, -, habove⟩
    · rw [hnone]
      rwa [hlatest] at hrest
    · rw [hsome]
      rw [hlatest] at hrest
      refine List.pairwise_append.2 ⟨?_, hrest, ?_⟩
      · cases c.latest <;> simp
      · intro latest hmem claim' hmem'
        have hlow := habove latest (Option.mem_toList.1 hmem)
        rcases List.mem_cons.1 hmem' with rfl | hmem'
        · exact hlow
        · exact UInt64.lt_trans hlow ((List.pairwise_cons.1 hrest).1 claim' hmem')

/-- A collector that has halted stays as it is. -/
theorem run_of_isHalted (h : c.isHalted) (cycles : List Cycle) :
    c.afterCycles cycles = c ∧
      ∀ result ∈ c.results cycles, result = .error (.halted c.chainId) := by
  induction cycles with
  | nil => exact ⟨rfl, nofun⟩
  | cons k cycles ih =>
    rw [afterCycles, List.foldl_cons, results, runCycle_of_isHalted h]
    exact ⟨ih.1, List.forall_mem_cons.2 ⟨rfl, ih.2⟩⟩

private theorem chainId_runCycle (c : ClaimCollector) (k : Cycle) :
    (c.runCycle k).1.chainId = c.chainId := by
  have hstep := cycleStep_runCycle c k
  generalize c.runCycle k = out at hstep ⊢
  cases hstep <;> rfl

private theorem chainId_afterCycles (c : ClaimCollector) (cycles : List Cycle) :
    (c.afterCycles cycles).chainId = c.chainId := by
  induction cycles generalizing c with
  | nil => rfl
  | cons k cycles ih => exact (ih _).trans (chainId_runCycle c k)

/-- The heights of what a collector signs increase, whatever it observes and whether or not signing
succeeds. It halts exactly when it observes another root at the height signed last, and then it
stays as it is. -/
theorem never_equivocates (c : ClaimCollector) (cycles : List Cycle) :
    (c.latest.toList ++ c.signedIn cycles).Pairwise (·.snapshot.height < ·.snapshot.height) ∧
      (∀ k, (c.afterCycles cycles).Keeps k) ∧
      ((c.afterCycles cycles).isHalted → ∀ later,
        c.afterCycles (cycles ++ later) = c.afterCycles cycles ∧
          ∀ result ∈ (c.afterCycles cycles).results later,
            result = .error (.halted c.chainId)) := by
  refine ⟨increasing_latest_append_signedIn c cycles, fun k => keeps _ k, fun h later => ?_⟩
  obtain ⟨hafter, hresults⟩ := run_of_isHalted h later
  constructor
  · rw [afterCycles, List.foldl_append]
    exact hafter
  · rwa [chainId_afterCycles] at hresults

/-- What comes after a contradiction at height five is not signed any more. -/
example (signer : ClaimSigner) :
    let seen (height : UInt64) (root : UInt8) : Cycle :=
      .of signer (.ok ⟨"chain-a", height, .replicate 32 root, 0⟩)
    let cycles := [seen 4 1, seen 3 2, seen 5 1, seen 5 2, seen 6 1]
    ((new "chain-a" 8).afterCycles cycles).phase = .halted 5 ∧
      ((new "chain-a" 8).signedIn cycles).map (·.snapshot.height) = [4, 5] := by
  intro seen cycles
  exact ⟨rfl, rfl⟩

end ClaimCollector

end Attestation
