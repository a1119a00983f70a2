import Attestation.Proofs.Client.Lifecycle
import Attestation.Proofs.Client.Safety

/-!
# Unanimous batches

Usable claims that are all for one root at one height are in no conflict, so the root is accepted as
soon as it has a quorum (`Unanimous.exists_accepted`). If all members of a set state the root, it
has one under every policy that fits the set: a policy fits if its threshold is positive and at most
the exact weight of the set, and since no threshold exceeds the greatest word, neither the total
against which it is checked nor the weight of a group decides otherwise by being saturated
(`saturation_never_decides`).
-/

namespace Attestation

variable {recover : Recovery} {s : ClientState} {batch : List Claim} {height : UInt64}
  {root : Digest}

/-! ### Claims that say the same -/

/-- All usable claims of a batch are for one root at one height. -/
def Unanimous (recover : Recovery) (s : ClientState) (batch : List Claim) (height : UInt64)
    (root : Digest) : Prop :=
  ∀ claim ∈ batch, claim.Usable recover s →
    claim.snapshot.height = height ∧ claim.snapshot.root = root

instance (recover : Recovery) (s : ClientState) (batch : List Claim) (height : UInt64)
    (root : Digest) : Decidable (Unanimous recover s batch height root) :=
  inferInstanceAs (Decidable (∀ claim ∈ batch, _))

namespace Unanimous

/-- Unanimous claims give no other root a quorum. -/
theorem eq_of_hasQuorum (h : Unanimous recover s batch height root) {height' : UInt64}
    {root' : Digest} (hquorum : HasQuorum recover s batch height' root') :
    height' = height ∧ root' = root := by
  obtain ⟨a, ha⟩ := List.exists_mem_of_ne_nil _ hquorum.1
  obtain ⟨-, claim, hclaim, -⟩ := mem_supporters.1 ha
  obtain ⟨hmem, husable, rfl, rfl⟩ := mem_supporting.1 hclaim
  exact h claim hmem husable

/-- Claims that all say the same are not in conflict. -/
theorem calm (h : Unanimous recover s batch height root) : Calm recover s batch := by
  -- a second quorum or an equivocation takes a usable claim for another root
  rintro height' - ⟨root', hquorum, ⟨other, hne, hother⟩ | hequivocated⟩
  · exact hne ((h.eq_of_hasQuorum hother).2.trans (h.eq_of_hasQuorum hquorum).2.symm)
  · obtain ⟨c, hc, d, hd, hcu, hdu, -, -, -, hne⟩ := equivocated_iff.1 hequivocated
    exact hne ((h c hc hcu).2.trans (h d hd hdu).2.symm)

/-- The root on which all usable claims agree is accepted if it has a quorum. -/
theorem exists_accepted (h : Unanimous recover s batch height root)
    (hfresh : s.latestHeight < height) (hquorum : HasQuorum recover s batch height root) :
    ∃ u, aggregate recover s batch = .ok (.accepted u) ∧ u.height = height ∧ u.root = root ∧
      u.Supported recover s batch := by
  have hjudged := judged_aggregate recover s batch
  obtain ⟨u, hverdict⟩ := hjudged.exists_accepted_iff.2 ⟨h.calm, height, root, hfresh, hquorum⟩
  obtain ⟨-, -, hsupported⟩ := hjudged.accepted_iff.1 hverdict
  obtain ⟨hheight, hroot⟩ := h.eq_of_hasQuorum hsupported.quorum
  exact ⟨u, hverdict, hheight, hroot, hsupported⟩

end Unanimous

/-- Members that support a root and reach the threshold together give it a quorum. -/
theorem hasQuorum_of_group {group : List Attestor}
    (hpolicy : s.policy.validate s.attestors = .ok ()) (hnodup : group.Nodup)
    (hsupport : ∀ a ∈ group, a ∈ supporters recover s batch height root)
    (hweight : s.policy.threshold.toNat ≤ s.policy.exactWeight group) :
    HasQuorum recover s batch height root := by
  have hle : s.policy.exactWeight group ≤ support recover s batch height root :=
    s.policy.exactWeight_le_of_subset hnodup hsupport
  obtain ⟨hpos, -⟩ := QuorumPolicy.validate_eq_ok_iff.1 hpolicy
  refine ⟨fun hnil => ?_, hweight.trans hle⟩
  -- nobody weighs nothing, and the threshold is positive
  rw [support, hnil] at hle
  exact absurd (hpos.trans_le (hweight.trans hle)) (Nat.lt_irrefl 0)

/-! ### Totals -/

namespace QuorumPolicy

variable {set : AttestorSet}

/-- The weight of all members is the exact one, cut off at the greatest word. -/
theorem toNat_totalWeight (p : QuorumPolicy) (set : AttestorSet) :
    (p.totalWeight set).toNat = min (p.exactWeight set.members) (2 ^ 64 - 1) :=
  p.toNat_weightOfAll set.members

/-- Where attestors are counted, the total is their number. -/
private theorem totalWeight_count {threshold : UInt64} (h : set.size < UInt64.size) :
    (count threshold).totalWeight set = .ofNat set.size := by
  have hexact : (count threshold).exactWeight set.members = set.size := by
    simp [exactWeight, weightOf, AttestorSet.size]
  have hsize : UInt64.size = 2 ^ 64 := rfl
  rw [← UInt64.toNat_inj, toNat_totalWeight, hexact, UInt64.toNat_ofNat_of_lt' h,
    Nat.min_eq_left (by omega)]

end QuorumPolicy

/-! ### Roots that all members state -/

/-- Every member has a usable claim for a root at a height. -/
def EndorsedByAll (recover : Recovery) (s : ClientState) (batch : List Claim) (height : UInt64)
    (root : Digest) : Prop :=
  ∀ a ∈ s.attestors.members, ∃ c ∈ batch, c.attestorId = a.id ∧ c.Usable recover s ∧
    c.snapshot.height = height ∧ c.snapshot.root = root

instance (recover : Recovery) (s : ClientState) (batch : List Claim) (height : UInt64)
    (root : Digest) : Decidable (EndorsedByAll recover s batch height root) :=
  inferInstanceAs (Decidable (∀ a ∈ s.attestors.members, _))

namespace EndorsedByAll

/-- Whom all members endorse has all members as supporters. -/
theorem supporters_eq (h : EndorsedByAll recover s batch height root) :
    supporters recover s batch height root = s.attestors.members := by
  refine List.filter_eq_self.2 fun a ha => decide_eq_true ?_
  obtain ⟨c, hc, hid, husable, hfor⟩ := h a ha
  exact ⟨c, mem_supporting.2 ⟨hc, husable, hfor⟩, hid⟩

/-- What all members state has a quorum if the policy fits them. -/
theorem hasQuorum (h : EndorsedByAll recover s batch height root)
    (hpolicy : s.policy.validate s.attestors = .ok ()) :
    HasQuorum recover s batch height root := by
  rw [HasQuorum, support, h.supporters_eq]
  exact ⟨s.attestors.nonempty, (QuorumPolicy.validate_eq_ok_iff.1 hpolicy).2⟩

end EndorsedByAll

/-- **Saturation decides nothing, and fitting policies can be met.** A policy fits a set exactly if
its threshold is positive and at most the exact weight of the set. A group of attestors, in whatever
order it is added up, meets a policy exactly if its exact weight reaches the threshold. And if a
policy fits, a root that all members state at a height above the trusted one is accepted with the
weight of the whole set when the usable claims are for nothing else; whatever else is claimed, it is
accepted, or there is a conflict, or a higher root is accepted. -/
theorem saturation_never_decides (recover : Recovery) (set : AttestorSet) (p : QuorumPolicy) :
    (p.validate set = .ok () ↔
      0 < p.threshold.toNat ∧ p.threshold.toNat ≤ p.exactWeight set.members) ∧
    (∀ group, p.isMet (p.weightOfAll group) ↔ p.threshold.toNat ≤ p.exactWeight group) ∧
    (p.validate set = .ok () → ∀ s batch height root, s.attestors = set → s.policy = p →
      s.latestHeight < height → EndorsedByAll recover s batch height root →
      (Unanimous recover s batch height root →
        ∃ u, aggregate recover s batch = .ok (.accepted u) ∧ u.height = height ∧ u.root = root ∧
          u.weight = p.totalWeight set) ∧
      ((∃ height', aggregate recover s batch = .error (.conflictingQuorum height')) ∨
        ∃ u, aggregate recover s batch = .ok (.accepted u) ∧ height ≤ u.height ∧
          (u.height = height → u.root = root))) := by
  refine ⟨QuorumPolicy.validate_eq_ok_iff, p.isMet_weightOfAll, ?_⟩
  rintro hpolicy s batch height root rfl rfl hfresh hall
  have hquorum : HasQuorum recover s batch height root := hall.hasQuorum hpolicy
  refine ⟨fun hunanimous => ?_,
    (judged_aggregate recover s batch).conflict_or_accepted hfresh hquorum⟩
  obtain ⟨u, hverdict, rfl, rfl, hsupported⟩ := hunanimous.exists_accepted hfresh hquorum
  refine ⟨u, hverdict, rfl, rfl, UInt64.toNat_inj.1 ?_⟩
  rw [hsupported.weight, support, hall.supporters_eq, QuorumPolicy.toNat_totalWeight]

/-! ### Two attestors who each weigh all that a word can say -/

namespace Client.Heavyweights

/-- Two attestors of the greatest weight. -/
def attestors : AttestorSet where
  members := [⟨"ann", .replicate 20 1, 0xffffffffffffffff⟩,
    ⟨"bob", .replicate 20 2, 0xffffffffffffffff⟩]
  sorted := by decide +kernel
  nonempty := by decide
  addresses_nodup := by decide +kernel
  weight_ne_zero := by decide +kernel

/-- A fresh state that asks for the greatest weight. -/
def start : ClientState :=
  ⟨"client", "chain", attestors, .weighted 0xffffffffffffffff, 0, .replicate 32 0, .active, 10⟩

open ThreeVoters (claim trueRoot) in
/-- Both state the root at height five. -/
def accord : List Claim := [claim "ann" 1 5 (trueRoot 5), claim "bob" 2 5 (trueRoot 5)]

end Client.Heavyweights

open Client.ThreeVoters (readSigner trueRoot) in
open Client.Heavyweights in
/-- Ann and Bob together weigh more than a word can say, and what they agree on is accepted. -/
theorem saturation_never_decides_heavyweights :
    start.policy.validate attestors = .ok () ∧
    2 ^ 64 ≤ start.policy.exactWeight attestors.members ∧
    EndorsedByAll readSigner start accord 5 (trueRoot 5) ∧
    Unanimous readSigner start accord 5 (trueRoot 5) ∧
    ∃ u, aggregate readSigner start accord = .ok (.accepted u) ∧ u.height = 5 ∧
      u.root = trueRoot 5 ∧ u.weight = start.policy.totalWeight attestors := by
  have hpolicy : start.policy.validate attestors = .ok () := by decide +kernel
  have hexact : 2 ^ 64 ≤ start.policy.exactWeight attestors.members := by decide +kernel
  have hall : EndorsedByAll readSigner start accord 5 (trueRoot 5) := by decide +kernel
  have hunanimous : Unanimous readSigner start accord 5 (trueRoot 5) := by decide +kernel
  have hdecided := (saturation_never_decides readSigner attestors start.policy).2.2 hpolicy start
    accord 5 (trueRoot 5) rfl rfl (by decide) hall
  exact ⟨hpolicy, hexact, hall, hunanimous, hdecided.1 hunanimous⟩

end Attestation
