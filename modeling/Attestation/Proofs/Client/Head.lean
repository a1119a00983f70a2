import Attestation.Proofs.Client.Invariant
import Attestation.Proofs.Client.Membership
import Attestation.Hash.Sha256

/-!
# The latest root and the one that is kept

The latest root stands in the state of a client and, under the latest height, among the roots that
are kept. Above height zero the two are the same in every client (`HeadKept`). At height zero the
first root may be kept beside another latest one: a recovery to height zero changes the latest root
and leaves what is kept alone (`Rewound`).
-/

namespace Attestation

namespace Client

variable {recover : Recovery} {c : Client} {s : ClientState} {height : UInt64}
  {initial : Option ConsensusState} {ops : List Operation}

/-! ### Above height zero -/

/-- A positive latest height keeps the latest root. -/
def HeadKept (c : Client) : Prop :=
  0 < c.state.latestHeight →
    ∃ kept, c.history.get? c.state.latestHeight = some kept ∧ kept.root = c.state.latestRoot

/-- A new client keeps the root at its latest height, unless that is zero. -/
private theorem headKept_create (h : create s initial = .ok c) : c.HeadKept := by
  obtain ⟨-, ⟨-, hzero, rfl⟩ | ⟨first, -, hheight, hroot, rfl⟩⟩ := create_eq_ok_iff.1 h
  · exact fun hpos => absurd hpos (hzero ▸ UInt64.lt_irrefl 0)
  · exact fun _ => ⟨first, by rw [OrderedMap.get?_singleton, if_pos hheight.symm], hroot⟩

theorem HeadKept.freeze (h : c.HeadKept) : (c.freeze height).HeadKept := by
  rw [Client.freeze, ClientState.freeze]
  split_ifs
  · exact h
  · exact h

/-- An accepted update keeps the root that it makes the latest. -/
private theorem headKept_advance {u : AcceptedUpdate} : (c.advance u).HeadKept := by
  intro _
  refine ⟨u.consensusState, ?_, rfl⟩
  rw [get?_advance, if_pos (ClientState.oldestRetained_le _)]
  exact if_pos rfl

/-- A recovery puts the root of the substitute into the history, unless it leads to height zero. -/
private theorem headKept_restart : (c.restart s).HeadKept := by
  intro hpos
  have hget : (c.restart s).history.get? s.latestHeight =
      some { (c.history.get? s.latestHeight).getD ⟨s.latestHeight, s.latestRoot, 0⟩ with
        root := s.latestRoot } := by
    -- only a positive height gets the root of the substitute
    rw [get?_restart, get?_recoveredHistory]
    exact (if_pos s.oldestRetained_le).trans (if_pos ⟨hpos, rfl⟩)
  exact ⟨_, hget, rfl⟩

/-- No operation on such a client leaves a positive latest height without its root. -/
theorem Step.headKept {op : Operation} {out : Client × Except ClientError (Option UpdateOutcome)}
    (hstep : Step recover c op out) (h : c.HeadKept) : out.1.HeadKept := by
  refine hstep.preserves h (fun _ => h.freeze) (fun _ _ => headKept_advance) ?_ ?_
  · exact fun _ _ _ => h
  · exact fun _ _ _ => headKept_restart

/-! ### At height zero -/

/-- Some operation recovers to height zero with a root. -/
def Rewinds (ops : List Operation) (root : Digest) : Prop :=
  ∃ substitute, .recover substitute ∈ ops ∧ substitute.latestHeight = 0 ∧
    substitute.latestRoot = root

/-- At height zero only the first root is kept, and the latest root is the first one, too, unless it
comes from a recovery to height zero. -/
structure FirstAtZero (initial : Option ConsensusState) (ops : List Operation) (c : Client) :
    Prop where
  kept : ∀ kept, c.history.get? 0 = some kept →
    ∃ first ∈ initial, first.height = 0 ∧ kept.root = first.root
  latest : c.state.latestHeight = 0 → (∀ first ∈ initial, c.state.latestRoot = first.root) ∨
    Rewinds ops c.state.latestRoot

/-- A new client keeps at most its first root at height zero. -/
private theorem firstAtZero_create (h : create s initial = .ok c) : c.FirstAtZero initial ops := by
  obtain ⟨-, ⟨rfl, -, rfl⟩ | ⟨first, rfl, hheight, hroot, rfl⟩⟩ := create_eq_ok_iff.1 h
  · exact ⟨fun _ h => (nomatch h), fun _ => .inl fun _ h => (nomatch h)⟩
  · refine ⟨fun kept hget => ?_, fun _ => .inl ?_⟩
    · rw [OrderedMap.get?_singleton] at hget
      split_ifs at hget with hzero
      exact ⟨first, rfl, hzero.symm, congrArg _ (Option.some.inj hget).symm⟩
    · intro first' hmem
      rw [← Option.some.inj hmem]
      exact hroot.symm

theorem FirstAtZero.freeze (h : c.FirstAtZero initial ops) :
    (c.freeze height).FirstAtZero initial ops := by
  rw [Client.freeze, ClientState.freeze]
  split_ifs
  · exact h
  · exact ⟨h.kept, h.latest⟩

/-- An update above the latest height writes nothing at height zero. -/
theorem FirstAtZero.advance (h : c.FirstAtZero initial ops) {u : AcceptedUpdate}
    (hfresh : c.state.latestHeight < u.height) : (c.advance u).FirstAtZero initial ops := by
  -- an update goes up, so it neither writes at height zero nor ends there
  have hpos : 0 < u.height := UInt64.lt_of_le_of_lt UInt64.zero_le hfresh
  refine ⟨fun kept hget => ?_, fun hzero => absurd hzero (UInt64.ne_of_lt hpos).symm⟩
  rw [get?_advance] at hget
  split_ifs at hget with hretained heq
  · exact absurd heq (UInt64.ne_of_lt hpos)
  · exact h.kept kept hget

/-- A recovery writes nothing at height zero; if it leads there, its root is the latest one. -/
theorem FirstAtZero.restart (h : c.FirstAtZero initial ops) (hop : .recover s ∈ ops) :
    (c.restart s).FirstAtZero initial ops := by
  refine ⟨fun kept hget => ?_, fun hzero => .inr ⟨s, hop, hzero, rfl⟩⟩
  rw [get?_restart, get?_recoveredHistory] at hget
  split_ifs at hget with hretained hnew hle
  -- a recovery writes nothing at height zero, so what is kept there was kept before
  · exact absurd hnew.2 (UInt64.ne_of_lt hnew.1)
  · exact h.kept kept hget

/-- No operation writes a root at height zero. -/
theorem Step.firstAtZero {op : Operation}
    {out : Client × Except ClientError (Option UpdateOutcome)} (hop : op ∈ ops)
    (hstep : Step recover c op out) (h : c.FirstAtZero initial ops) :
    out.1.FirstAtZero initial ops := by
  refine hstep.preserves h (fun _ => h.freeze) (fun _ fresh => h.advance fresh) ?_ ?_
  · exact fun _ _ _ => ⟨h.kept, h.latest⟩
  · rintro s rfl -
    exact h.restart hop

/-! ### The head -/

/-- Without a proof only the root that is kept for a height is accepted there. -/
theorem root_kept_of_verifyMembership {hash : Bytes → Digest} {root : Digest}
    (h : c.verifyMembership hash height root none = .ok ()) :
    ∃ kept, c.history.get? height = some kept ∧ kept.root = root := by
  obtain ⟨-, -, hkept | ⟨p, hnone, -⟩⟩ := ClientState.verifyMembership_eq_ok_iff.1 h
  · exact hkept
  · contradiction

/-- A root stands at height zero beside another latest one: it is the first root, and the latest
one comes from a recovery to height zero. -/
structure Rewound (initial : Option ConsensusState) (ops : List Operation) (c : Client)
    (root : Digest) : Prop where
  latestHeight : c.state.latestHeight = 0
  first : ∃ first ∈ initial, first.height = 0 ∧ root = first.root
  latestRoot : Rewinds ops c.state.latestRoot

/-- **Head and history.** Whatever operations a new client undergoes, a positive latest height
keeps the latest root. What is kept at the latest height, and so every root that is accepted there
without a proof, is the latest root, unless the client was recovered to height zero while the first
root was kept there. -/
theorem head_agrees_unless_rewound (hash : Bytes → Digest) (hcreate : create s initial = .ok c) :
    (0 < (c.afterOperations recover ops).state.latestHeight →
      ∃ kept, (c.afterOperations recover ops).history.get?
          (c.afterOperations recover ops).state.latestHeight = some kept ∧
        kept.root = (c.afterOperations recover ops).state.latestRoot) ∧
    (∀ kept, (c.afterOperations recover ops).history.get?
        (c.afterOperations recover ops).state.latestHeight = some kept →
      kept.root = (c.afterOperations recover ops).state.latestRoot ∨
        Rewound initial ops (c.afterOperations recover ops) kept.root) ∧
    ∀ root, (c.afterOperations recover ops).verifyMembership hash
        (c.afterOperations recover ops).state.latestHeight root none = .ok () →
      root = (c.afterOperations recover ops).state.latestRoot ∨
        Rewound initial ops (c.afterOperations recover ops) root := by
  have hhead : (c.afterOperations recover ops).HeadKept :=
    afterOperations_induction (headKept_create hcreate) fun _ _ _ _ hstep h => hstep.headKept h
  have hzero : (c.afterOperations recover ops).FirstAtZero initial ops :=
    afterOperations_induction (firstAtZero_create hcreate)
      fun _ _ _ hmem hstep h => hstep.firstAtZero hmem h
  generalize c.afterOperations recover ops = reached at hhead hzero ⊢
  have hkept : ∀ kept, reached.history.get? reached.state.latestHeight = some kept →
      kept.root = reached.state.latestRoot ∨ Rewound initial ops reached kept.root := by
    intro kept hget
    -- at height zero only the first root can be kept, above it the latest one is
    by_cases hlatest : reached.state.latestHeight = 0
    · obtain ⟨first, hmem, hheight, hroot⟩ := hzero.kept kept (hlatest ▸ hget)
      rcases hzero.latest hlatest with hfirst | hrewinds
      · exact .inl (hroot.trans (hfirst first hmem).symm)
      · exact .inr ⟨hlatest, ⟨first, hmem, hheight, hroot⟩, hrewinds⟩
    · obtain ⟨head, hget', hroot⟩ := hhead (UInt64.pos_iff_ne_zero.2 hlatest)
      obtain rfl := Option.some.inj (hget.symm.trans hget')
      exact .inl hroot
  refine ⟨hhead, hkept, fun root haccepted => ?_⟩
  obtain ⟨kept, hget, rfl⟩ := root_kept_of_verifyMembership haccepted
  exact hkept kept hget

open ThreeVoters in
/-- Set back to height three, the client keeps the root of the substitute there. -/
theorem head_agrees_setback :
    create start (some first) = .ok ⟨start, .singleton 0 first⟩ ∧
    (afterOperations readSigner ⟨start, .singleton 0 first⟩ setback).state = earlier ∧
    ∃ kept, (afterOperations readSigner ⟨start, .singleton 0 first⟩ setback).history.get? 3 =
      some kept ∧ kept.root = trueRoot 3 := by
  have hcreate : create start (some first) = .ok ⟨start, .singleton 0 first⟩ := by decide +kernel
  have hstate : (afterOperations readSigner ⟨start, .singleton 0 first⟩ setback).state =
      earlier := by decide +kernel
  have hhead := (@head_agrees_unless_rewound readSigner ⟨start, .singleton 0 first⟩ start
    (some first) setback Sha256.hash hcreate).1
  rw [hstate] at hhead
  exact ⟨hcreate, hstate, hhead (by decide)⟩

namespace ThreeVoters

/-- The state at height zero with another root. -/
def reset : ClientState := { start with latestRoot := trueRoot 1 }

end ThreeVoters

open ThreeVoters in
/-- A client that keeps its first root and is recovered to height zero with another one goes on to
accept the first root there. -/
theorem head_differs_after_reset :
    create start (some first) = .ok ⟨start, .singleton 0 first⟩ ∧
    (afterOperations readSigner ⟨start, .singleton 0 first⟩ [.freeze 1, .recover reset]).state =
      reset ∧
    first.root ≠ reset.latestRoot ∧
    (afterOperations readSigner ⟨start, .singleton 0 first⟩
      [.freeze 1, .recover reset]).history.get? 0 = some first ∧
    (afterOperations readSigner ⟨start, .singleton 0 first⟩
      [.freeze 1, .recover reset]).verifyMembership Sha256.hash 0 first.root none = .ok () := by
  decide +kernel

end Client

end Attestation
