import Attestation.Claim
import Attestation.Client.State

/-!
# Tallies

A batch of claims is taken in one claim after the other. A claim is usable if it names a registered
attestor, is for the client's chain and was signed by that attestor. A usable claim is a vote for
its chain, height and root, fresh if the height is above the trusted one and stale otherwise; an
attestor has one vote for each root, also if it signs several roots at one height. Claims that are
not usable are only counted.
-/

namespace Attestation

/-! ### Standing of a claim -/

/-- How a claim stands towards a client. -/
inductive Standing where
  /-- The claim names no registered attestor. -/
  | stranger
  /-- The claim is for another chain. -/
  | otherChain
  /-- The claim was not signed by the attestor it names. -/
  | forged
  /-- The claim counts as a vote. -/
  | usable
deriving DecidableEq

/-- The standing of a claim; of several faults the first in the order above counts. -/
def Claim.standing (recover : Recovery) (s : ClientState) (c : Claim) : Standing :=
  match s.attestors.find? c.attestorId with
  | none => .stranger
  | some a =>
    if c.snapshot.chainId ≠ s.chainId then .otherChain
    else if c.isSignedBy recover a.address then .usable
    else .forged

/-! ### Votes -/

/-- What a vote is for. -/
structure Subject where
  /-- The chain. -/
  chainId : String
  /-- The height on the chain. -/
  height : UInt64
  /-- The root at that height. -/
  root : Digest
deriving DecidableEq

namespace Subject

instance : Ord Subject :=
  ⟨compareLex (compareOn chainId) (compareLex (compareOn height) (compareOn root))⟩

instance : Std.TransOrd Subject :=
  inferInstanceAs <| Std.TransCmp
    (compareLex (compareOn chainId) (compareLex (compareOn height) (compareOn root)))

instance : Std.LawfulEqOrd Subject where
  compare_self {a} := by
    show (compare a.chainId a.chainId).then
      ((compare a.height a.height).then (compare a.root a.root)) = .eq
    rw [Std.ReflOrd.compare_self, Std.ReflOrd.compare_self, Std.ReflOrd.compare_self]
    rfl
  eq_of_compare {a b} h := by
    have h : (compare a.chainId b.chainId).then
      ((compare a.height b.height).then (compare a.root b.root)) = .eq := h
    obtain ⟨h₁, h₂⟩ := Ordering.then_eq_eq.1 h
    obtain ⟨h₂, h₃⟩ := Ordering.then_eq_eq.1 h₂
    cases a; cases b
    rw [mk.injEq]
    exact ⟨Std.LawfulEqOrd.eq_of_compare h₁, Std.LawfulEqOrd.eq_of_compare h₂,
      Std.LawfulEqOrd.eq_of_compare h₃⟩

end Subject

/-- An attestor at a height. -/
structure Slot where
  /-- The id of the attestor. -/
  attestorId : String
  /-- The height at which it signs. -/
  height : UInt64
deriving DecidableEq

namespace Slot

instance : Ord Slot := ⟨compareLex (compareOn attestorId) (compareOn height)⟩

instance : Std.TransOrd Slot :=
  inferInstanceAs (Std.TransCmp (compareLex (compareOn attestorId) (compareOn height)))

instance : Std.LawfulEqOrd Slot where
  compare_self {a} := by
    show (compare a.attestorId a.attestorId).then (compare a.height a.height) = .eq
    rw [Std.ReflOrd.compare_self, Std.ReflOrd.compare_self]
    rfl
  eq_of_compare {a b} h := by
    have h : (compare a.attestorId b.attestorId).then (compare a.height b.height) = .eq := h
    obtain ⟨h₁, h₂⟩ := Ordering.then_eq_eq.1 h
    cases a; cases b
    rw [mk.injEq]
    exact ⟨Std.LawfulEqOrd.eq_of_compare h₁, Std.LawfulEqOrd.eq_of_compare h₂⟩

end Slot

namespace Claim

/-- What the claim is a vote for. -/
def subject (c : Claim) : Subject := ⟨c.snapshot.chainId, c.snapshot.height, c.snapshot.root⟩

/-- Who signs at which height. -/
def slot (c : Claim) : Slot := ⟨c.attestorId, c.snapshot.height⟩

end Claim

/-- The attestors that voted for a subject, each with the earliest block time it gave. -/
abbrev Votes := OrderedMap String UInt64

/-- Takes in a claim; of two times of one attestor the earlier stands. -/
def Votes.add (votes : Votes) (c : Claim) : Votes :=
  votes.alter c.attestorId fun
    | some time => min time c.snapshot.collectedAt
    | none => c.snapshot.collectedAt

/-- Takes in a claim among the votes for all subjects. -/
def addVote (groups : OrderedMap Subject Votes) (c : Claim) : OrderedMap Subject Votes :=
  groups.alter c.subject fun votes => Votes.add (votes.getD .empty) c

/-! ### Tallies -/

/-- What is known after some claims of a batch. -/
structure Tally where
  /-- The number of claims that name no registered attestor. -/
  strangers : Nat := 0
  /-- The chain of the last claim of a registered attestor for another chain. -/
  otherChain : Option String := none
  /-- The number of claims not signed by the attestor they name. -/
  forged : Nat := 0
  /-- The number of usable claims at or below the trusted height. -/
  stale : Nat := 0
  /-- The number of usable claims above the trusted height. -/
  fresh : Nat := 0
  /-- The votes above the trusted height. -/
  freshVotes : OrderedMap Subject Votes := .empty
  /-- The votes at or below the trusted height. -/
  staleVotes : OrderedMap Subject Votes := .empty
  /-- The roots that each attestor signed at each height, in increasing order. -/
  signed : OrderedMap Slot (List Digest) := .empty

namespace Tally

/-- Takes in a usable claim. -/
def vote (s : ClientState) (t : Tally) (c : Claim) : Tally :=
  let signed := t.signed.alter c.slot fun roots => insertSorted c.snapshot.root (roots.getD [])
  if s.latestHeight < c.snapshot.height then
    { t with signed, fresh := t.fresh + 1, freshVotes := addVote t.freshVotes c }
  else
    { t with signed, stale := t.stale + 1, staleVotes := addVote t.staleVotes c }

/-- Takes in a claim. -/
def add (recover : Recovery) (s : ClientState) (t : Tally) (c : Claim) : Tally :=
  match c.standing recover s with
  | .stranger => { t with strangers := t.strangers + 1 }
  | .otherChain => { t with otherChain := some c.snapshot.chainId }
  | .forged => { t with forged := t.forged + 1 }
  | .usable => t.vote s c

/-- The tally of a batch. -/
def ofBatch (recover : Recovery) (s : ClientState) (batch : List Claim) : Tally :=
  batch.foldl (add recover s) {}

end Tally

end Attestation
