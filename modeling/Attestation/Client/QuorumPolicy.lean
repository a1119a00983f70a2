import Attestation.Client.AttestorSet
import Attestation.Word

/-!
# Quorum policies

A policy says how much each attestor's vote weighs and which weight a group must reach.
-/

namespace Attestation

/-- The weight that a group of attestors must reach. -/
inductive QuorumPolicy where
  /-- Every attestor counts once. -/
  | count (threshold : UInt64)
  /-- Every attestor counts with its registered weight. -/
  | weighted (threshold : UInt64)
deriving DecidableEq

/-- What is wrong with a policy for a set. -/
inductive QuorumPolicyError where
  | zeroThreshold
  | unreachable (threshold total : UInt64)
deriving DecidableEq

namespace QuorumPolicy

/-- The weight to be reached. -/
def threshold : QuorumPolicy → UInt64
  | count t => t
  | weighted t => t

/-- The weight of one vote. -/
def weightOf : QuorumPolicy → Attestor → UInt64
  | count _, _ => 1
  | weighted _, a => a.weight

/-- The weight of a group of attestors. -/
def weightOfAll (p : QuorumPolicy) (group : List Attestor) : UInt64 :=
  Word.sum (group.map p.weightOf)

/-- The weight of the whole set. -/
def totalWeight (p : QuorumPolicy) (s : AttestorSet) : UInt64 := p.weightOfAll s.members

/-- Whether a weight reaches the threshold. -/
def isMet (p : QuorumPolicy) (weight : UInt64) : Bool := p.threshold ≤ weight

/-- A policy fits a set if its threshold is positive and the whole set reaches it. -/
def validate (p : QuorumPolicy) (s : AttestorSet) : Except QuorumPolicyError Unit :=
  if p.threshold = 0 then .error .zeroThreshold
  else if p.threshold > p.totalWeight s then .error (.unreachable p.threshold (p.totalWeight s))
  else .ok ()

end QuorumPolicy

/-- The text of a policy error. -/
def QuorumPolicyError.message : QuorumPolicyError → String
  | zeroThreshold => "invalid quorum policy: threshold must be positive"
  | unreachable threshold total =>
    s!"invalid quorum policy: threshold {threshold} exceeds total weight {total}"

end Attestation
