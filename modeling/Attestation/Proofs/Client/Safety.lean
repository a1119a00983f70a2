import Attestation.Proofs.Client.Update
import Mathlib.Data.Finset.Basic

/-!
# Pessimistic safety

As long as the attestors that may lie do not weigh as much as the threshold, a client trusts true
roots only, whatever batches it is given. Every quorum then has a supporter that does not lie
(`exists_honest_supporter`), so an accepted root is true; that the client's roots agree with the
source is an invariant of its updates (`UpdateStep.trustsOnly`), and so of its runs.
-/

namespace Attestation

/-- Usable claims of attestors that do not lie state the root of the source. -/
def Truthful (recover : Recovery) (s : ClientState) (source : UInt64 → Digest)
    (liars : Finset String) (batch : List Claim) : Prop :=
  ∀ c ∈ batch, c.Usable recover s → c.attestorId ∉ liars →
    c.snapshot.root = source c.snapshot.height

/-- The liars together do not reach the threshold. -/
def Outweighed (s : ClientState) (liars : Finset String) : Prop :=
  s.policy.exactWeight (s.attestors.members.filter (·.id ∈ liars)) < s.policy.threshold.toNat

instance (recover : Recovery) (s : ClientState) (source : UInt64 → Digest)
    (liars : Finset String) (batch : List Claim) :
    Decidable (Truthful recover s source liars batch) :=
  inferInstanceAs (Decidable (∀ c ∈ batch, _))

instance (s : ClientState) (liars : Finset String) : Decidable (Outweighed s liars) :=
  inferInstanceAs (Decidable (_ < _))

variable {recover : Recovery} {s : ClientState} {source : UInt64 → Digest}
  {liars : Finset String} {batch : List Claim} {height : UInt64} {root : Digest}

/-! ### Quorums hold an honest supporter -/

/-- A quorum weighs more than all liars, so one of its supporters is none. -/
theorem exists_honest_supporter (hweight : Outweighed s liars)
    (hquorum : HasQuorum recover s batch height root) :
    ∃ a ∈ supporters recover s batch height root, a.id ∉ liars := by
  -- if all of them were liars, the liars would weigh at least as much as the quorum
  by_contra! hall
  have hfilter : (supporters recover s batch height root).filter (·.id ∈ liars) =
      supporters recover s batch height root :=
    List.filter_eq_self.2 fun a ha => decide_eq_true (hall a ha)
  have hsublist : (supporters recover s batch height root).Sublist
      (s.attestors.members.filter (·.id ∈ liars)) := by
    rw [← hfilter]
    exact List.filter_sublist.filter _
  have hle := s.policy.exactWeight_mono hsublist
  exact absurd (hquorum.2.trans hle) (Nat.not_le.2 hweight)

/-- A root with a quorum is the root of the source: an honest supporter states it. -/
theorem root_eq_of_hasQuorum (hweight : Outweighed s liars)
    (htruthful : Truthful recover s source liars batch)
    (hquorum : HasQuorum recover s batch height root) : root = source height := by
  obtain ⟨a, ha, hhonest⟩ := exists_honest_supporter hweight hquorum
  obtain ⟨-, c, hc, hid⟩ := mem_supporters.1 ha
  obtain ⟨hmem, husable, rfl, rfl⟩ := mem_supporting.1 hc
  exact htruthful c hmem husable (hid ▸ hhonest)

/-! ### One update -/

namespace Client

/-- All roots that a client trusts are those of the source. -/
structure TrustsOnly (source : UInt64 → Digest) (c : Client) : Prop where
  kept : ∀ height kept, c.history.get? height = some kept →
    kept.height = height ∧ kept.root = source height
  latest : 0 < c.state.latestHeight → c.state.latestRoot = source c.state.latestHeight

variable {c : Client}

theorem TrustsOnly.freeze (h : c.TrustsOnly source) : (c.freeze height).TrustsOnly source := by
  refine ⟨h.kept, ?_⟩
  rw [Client.freeze, ClientState.freeze]
  split <;> exact h.latest

theorem TrustsOnly.advance (h : c.TrustsOnly source) {u : AcceptedUpdate}
    (hroot : u.root = source u.height) : (c.advance u).TrustsOnly source := by
  refine ⟨fun height kept hget => ?_, fun _ => hroot⟩
  rw [Client.advance, ClientState.prune, OrderedMap.get?_filterKeys,
    OrderedMap.get?_insert] at hget
  split_ifs at hget with hretained hnew
  · obtain rfl := Option.some.inj hget
    exact ⟨hnew.symm, hnew ▸ hroot⟩
  · exact h.kept height kept hget

/-- No batch makes a client trust a false root. -/
theorem UpdateStep.trustsOnly {out : Client × Except ClientError UpdateOutcome}
    (hstep : UpdateStep recover c batch out) (hweight : Outweighed c.state liars)
    (htruthful : Truthful recover c.state source liars batch) (h : c.TrustsOnly source) :
    out.1.TrustsOnly source := by
  cases hstep with
  | frozen status => exact h
  | updated status verdict fresh =>
    have hsupported := ((judged_aggregate recover c.state batch).accepted_iff.1 verdict).2.2
    exact h.advance (root_eq_of_hasQuorum hweight htruthful hsupported.quorum)
  | confirmed status verdict => exact h
  | conflict status verdict => exact h.freeze
  | refused status verdict other => exact h

/-! ### Runs -/

/-- The hypotheses on liars and claims speak of the voters alone. -/
private theorem SameVoters.outweighed {s' : ClientState} (h : SameVoters s s')
    (hweight : Outweighed s liars) : Outweighed s' liars := by
  rw [Outweighed, h.policy, h.attestors]
  exact hweight

private theorem SameVoters.truthful {s' : ClientState} (h : SameVoters s s')
    (htruthful : Truthful recover s source liars batch) :
    Truthful recover s' source liars batch :=
  fun c hc husable => htruthful c hc (h.usable_iff.1 husable)

/-- No run of batches makes a client trust a false root. -/
theorem trustsOnly_afterUpdates {batches : List (List Claim)} (h : c.TrustsOnly source)
    (hweight : Outweighed c.state liars)
    (htruthful : ∀ batch ∈ batches, Truthful recover c.state source liars batch) :
    (c.afterUpdates recover batches).TrustsOnly source := by
  induction batches generalizing c with
  | nil => exact h
  | cons batch batches ih =>
    have hstep := updateStep_update recover c batch
    refine ih (hstep.trustsOnly hweight (htruthful batch List.mem_cons_self) h)
      (hstep.sameVoters.outweighed hweight) fun batch' hmem => ?_
    exact hstep.sameVoters.truthful (htruthful batch' (List.mem_cons_of_mem _ hmem))

/-- A new client trusts its first root and no other. -/
private theorem trustsOnly_create {initial : Option ConsensusState}
    (hcreate : create s initial = .ok c)
    (hinitial : ∀ first ∈ initial, first.root = source first.height) :
    c.TrustsOnly source ∧ c.state = s := by
  obtain ⟨-, ⟨rfl, hzero, rfl⟩ | ⟨first, rfl, hheight, hroot, rfl⟩⟩ := create_eq_ok_iff.1 hcreate
  · refine ⟨⟨fun height kept hget => ?_, fun hpos => ?_⟩, rfl⟩
    · rw [OrderedMap.get?_empty] at hget
      contradiction
    · exact absurd hpos (hzero ▸ UInt64.lt_irrefl 0)
  · have hfirst := hinitial first rfl
    refine ⟨⟨fun height kept hget => ?_, fun _ => ?_⟩, rfl⟩
    · rw [OrderedMap.get?_singleton] at hget
      split_ifs at hget with heq
      obtain rfl := Option.some.inj hget
      exact ⟨heq.symm, heq ▸ hfirst⟩
    · exact hroot ▸ hheight ▸ hfirst

/-- **Pessimistic safety.** If the liars are outweighed and the first root, if any, is that of the
source, then after any sequence of batches in which the others claim roots of the source only, each
root that the client keeps or trusts as the latest is that of the source at its height. -/
theorem roots_agree_with_source {initial : Option ConsensusState} {batches : List (List Claim)}
    (hcreate : create s initial = .ok c)
    (hinitial : ∀ first ∈ initial, first.root = source first.height)
    (hweight : Outweighed s liars)
    (htruthful : ∀ batch ∈ batches, Truthful recover s source liars batch) :
    (∀ height kept, (c.afterUpdates recover batches).history.get? height = some kept →
      kept.height = height ∧ kept.root = source height) ∧
    (0 < (c.afterUpdates recover batches).state.latestHeight →
      (c.afterUpdates recover batches).state.latestRoot =
        source (c.afterUpdates recover batches).state.latestHeight) := by
  obtain ⟨htrusts, rfl⟩ := trustsOnly_create hcreate hinitial
  have hreached := trustsOnly_afterUpdates htrusts hweight htruthful
  exact ⟨hreached.kept, hreached.latest⟩

/-! ### Three voters, one of which lies -/

namespace ThreeVoters

/-- Three attestors of equal weight. -/
def attestors : AttestorSet where
  members := [⟨"ann", .replicate 20 1, 1⟩, ⟨"bob", .replicate 20 2, 1⟩, ⟨"eve", .replicate 20 3, 1⟩]
  sorted := by decide +kernel
  nonempty := by decide
  addresses_nodup := by decide +kernel
  weight_ne_zero := by decide +kernel

/-- A fresh state under which two of the three are a quorum. -/
def start : ClientState :=
  ⟨"client", "chain", attestors, .count 2, 0, .replicate 32 0, .active, 10⟩

/-- The root of the state as the first one that is kept. -/
def first : ConsensusState := ⟨0, .replicate 32 0, 7⟩

/-- A recovery that reads the signer off the first byte of the signature. -/
def readSigner : Recovery := fun _ signature => .ok (.replicate 20 (signature.headD 0))

/-- A source whose roots repeat the lowest byte of the height. -/
def trueRoot (height : UInt64) : Digest := .replicate 32 height.toUInt8

/-- A claim under an id by a signer. -/
def claim (id : String) (signer : UInt8) (height : UInt64) (root : Digest) : Claim :=
  ⟨⟨"chain", height, root, 7⟩, id, [signer]⟩

/-- Ann and Bob state the root at height five while Eve states another. -/
def dispute : List Claim :=
  [claim "ann" 1 5 (trueRoot 5), claim "eve" 3 5 (trueRoot 6), claim "bob" 2 5 (trueRoot 5)]

/-- Eve signs a false root under her own id and under Bob's. -/
def forgery : List Claim := [claim "eve" 3 9 (trueRoot 0), claim "bob" 3 9 (trueRoot 0)]

end ThreeVoters

open ThreeVoters in
/-- Eve alone is outweighed; the client adopts the root that Ann and Bob state and no other. -/
theorem roots_agree_with_source_three_voters :
    create start (some first) = .ok ⟨start, .singleton 0 first⟩ ∧
    first.root = trueRoot first.height ∧ Outweighed start {"eve"} ∧
    (∀ batch ∈ [dispute, forgery], Truthful readSigner start trueRoot {"eve"} batch) ∧
    (afterUpdates readSigner ⟨start, .singleton 0 first⟩
      [dispute, forgery]).state.latestHeight = 5 ∧
    (afterUpdates readSigner ⟨start, .singleton 0 first⟩ [dispute, forgery]).state.latestRoot =
      trueRoot 5 := by
  have hcreate : create start (some first) = .ok ⟨start, .singleton 0 first⟩ := by decide +kernel
  have hfirst : first.root = trueRoot first.height := by decide +kernel
  have hweight : Outweighed start {"eve"} := by decide +kernel
  have htruthful : ∀ batch ∈ [dispute, forgery],
      Truthful readSigner start trueRoot {"eve"} batch := by decide +kernel
  have hheight : (afterUpdates readSigner ⟨start, .singleton 0 first⟩
      [dispute, forgery]).state.latestHeight = 5 := by decide +kernel
  have hlatest :=
    (roots_agree_with_source hcreate (by simpa using hfirst) hweight htruthful).2
  rw [hheight] at hlatest
  exact ⟨hcreate, hfirst, hweight, htruthful, hheight, hlatest (by decide)⟩

end Client

end Attestation
