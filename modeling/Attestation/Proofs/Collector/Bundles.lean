import Attestation.Collector.Proofs
import Attestation.Proofs.Merkle.Listing
import Attestation.Proofs.Wire.Messages

/-!
# The published bundle never goes back

A proof collector meets one observation after another. Each of them may fail, and the heights may
jump, repeat and fall. `CollectStep` says all that a collection can come to: the bundle over an
observation above the published one takes its place, and nothing else changes it. So at every point
of a run the bundle is that over the first of the highest observations (`ProofCollector.Publishes`),
and all answers come from it (`ProofCollector.Answers`).
-/

namespace Attestation

/-! ### Bundles over a listing -/

namespace ProofBundle

variable {hash : Bytes → Digest} {chainId : String} {height : UInt64} {packets : List Packet}
  {path : Digest}

/-- A proof is found under a path if a packet was listed there. -/
private theorem isSome_proofFor?_ofList :
    ((ofTree hash chainId height (.ofList packets)).proofFor? path).isSome ↔
      ∃ packet ∈ packets, packet.path = path := by
  rw [proofFor?, List.find?_isSome]
  have hleaves := map_leaf_ofTree hash chainId height (.ofList packets)
  constructor
  · rintro ⟨p, hp, hpath⟩
    have hleaf := hleaves ▸ List.mem_map_of_mem hp
    exact ⟨p.leaf, CommitmentTree.mem_leaves_ofList.1 hleaf, beq_iff_eq.1 hpath⟩
  · rintro ⟨packet, hpacket, hpath⟩
    have hleaf := hleaves ▸ CommitmentTree.mem_leaves_ofList.2 hpacket
    obtain ⟨p, hp, rfl⟩ := List.mem_map.1 hleaf
    exact ⟨p, hp, beq_iff_eq.2 hpath⟩

end ProofBundle

namespace ProofCollector

variable {hash : Bytes → Digest} {c : ProofCollector} {o p : Observation}
  {observed : List Observation} {next : Except SourceError Observation}
  {seen : List (Except SourceError Observation)}

/-! ### One collection -/

/-- What a collection does to a collector, and the height it reports. -/
inductive CollectStep (hash : Bytes → Digest) (c : ProofCollector) :
    Except SourceError Observation → ProofCollector × Except ProvingError UInt64 → Prop
  /-- The observation fails. -/
  | unseen {cause : SourceError} : CollectStep hash c (.error cause) (c, .error (.source cause))
  /-- The chain is not above what is published. -/
  | kept {o : Observation} {b : ProofBundle} (published : c.latest = some b)
      (height : o.height ≤ b.height) : CollectStep hash c (.ok o) (c, .ok b.height)
  /-- The chain is above what is published, or nothing is. -/
  | replaced {o : Observation} (above : ∀ b ∈ c.latest, b.height < o.height) :
      CollectStep hash c (.ok o)
        ({ c with latest := some (bundleOf hash c.chainId o) }, .ok o.height)

/-- Every collection makes one of the steps. -/
theorem collectStep_collect (hash : Bytes → Digest) (c : ProofCollector)
    (next : Except SourceError Observation) : CollectStep hash c next (c.collect hash next) := by
  cases next with
  | error cause => exact .unseen
  | ok o =>
    rw [collect]
    split
    · rename_i hlatest
      exact .replaced fun b hb => nomatch hlatest.symm.trans hb
    · rename_i latest hlatest
      split_ifs with hle
      · exact .kept hlatest hle
      · refine .replaced fun b hb => ?_
        obtain rfl := Option.some.inj (hlatest.symm.trans hb)
        exact UInt64.not_le.1 hle

/-! ### The highest observation -/

/-- An observation is the first of the highest ones if those before it are below it and those after
it are not above it. -/
def FirstHighest (o : Observation) (observed : List Observation) : Prop :=
  ∃ before after, observed = before ++ o :: after ∧
    (∀ p ∈ before, p.height < o.height) ∧ ∀ p ∈ after, p.height ≤ o.height

/-- No observation is above the first of the highest ones. -/
private theorem FirstHighest.height_le (h : FirstHighest o observed) (hp : p ∈ observed) :
    p.height ≤ o.height := by
  obtain ⟨before, after, rfl, hbefore, hafter⟩ := h
  rcases List.mem_append.1 hp with hp | hp
  · exact UInt64.le_of_lt (hbefore p hp)
  · rcases List.mem_cons.1 hp with rfl | hp
    · exact UInt64.le_refl _
    · exact hafter p hp

theorem FirstHighest.mem (h : FirstHighest o observed) : o ∈ observed := by
  obtain ⟨before, after, rfl, -⟩ := h
  exact List.mem_append_right before List.mem_cons_self

/-- No other observation is the first of the highest ones. -/
theorem FirstHighest.unique (h : FirstHighest o observed) (h' : FirstHighest p observed) :
    o = p := by
  have hle := h'.height_le h.mem
  have hle' := h.height_le h'.mem
  obtain ⟨before, after, rfl, hbefore, -⟩ := h
  obtain ⟨before', after', heq, hbefore', -⟩ := h'
  -- if one came first, the other would have to be above it
  rcases List.append_eq_append_iff.1 heq with ⟨between, rfl, htail⟩ | ⟨between, rfl, htail⟩
  · cases between with
    | nil => exact (List.cons.inj htail).1
    | cons q between =>
      obtain rfl := (List.cons.inj htail).1
      exact absurd (hbefore' o (by simp)) (UInt64.not_lt.2 hle')
  · cases between with
    | nil => exact (List.cons.inj htail).1.symm
    | cons q between =>
      obtain rfl := (List.cons.inj htail).1
      exact absurd (hbefore p (by simp)) (UInt64.not_lt.2 hle)

/-- One that is not above it changes nothing. -/
theorem FirstHighest.append_singleton (h : FirstHighest o observed) (hle : p.height ≤ o.height) :
    FirstHighest o (observed ++ [p]) := by
  obtain ⟨before, after, rfl, hbefore, hafter⟩ := h
  refine ⟨before, after ++ [p], by rw [List.append_assoc, List.cons_append], hbefore, ?_⟩
  exact List.forall_mem_append.2 ⟨hafter, List.forall_mem_singleton.2 hle⟩

/-- One above all others is the highest. -/
private theorem firstHighest_append_singleton (habove : ∀ p ∈ observed, p.height < o.height) :
    FirstHighest o (observed ++ [o]) :=
  ⟨observed, [], rfl, habove, nofun⟩

/-! ### Runs -/

/-- The collector after a run of observations. -/
def afterObservations (hash : Bytes → Digest) (c : ProofCollector)
    (seen : List (Except SourceError Observation)) : ProofCollector :=
  seen.foldl (fun c next => (c.collect hash next).1) c

/-- The observations of a run that did not fail. -/
def observedIn (seen : List (Except SourceError Observation)) : List Observation :=
  seen.filterMap Except.toOption

private theorem afterObservations_append_singleton : c.afterObservations hash (seen ++ [next]) =
    ((c.afterObservations hash seen).collect hash next).1 :=
  List.foldl_concat _ _ _ _

private theorem observedIn_append_singleton :
    observedIn (seen ++ [next]) = observedIn seen ++ next.toOption.toList := by
  rw [observedIn, List.filterMap_append]
  cases next <;> rfl

/-- A collector for a chain publishes the bundle over the first of the highest observations. -/
structure Publishes (hash : Bytes → Digest) (chainId : String) (c : ProofCollector)
    (observed : List Observation) : Prop where
  chainId_eq : c.chainId = chainId
  latest : (observed = [] ∧ c.latest = none) ∨
    ∃ o, FirstHighest o observed ∧ c.latest = some (bundleOf hash c.chainId o)

/-- A collection leaves published what its observation adds to the run. -/
theorem Publishes.collect {chainId : String} (h : c.Publishes hash chainId observed)
    (next : Except SourceError Observation) :
    (c.collect hash next).1.Publishes hash chainId (observed ++ next.toOption.toList) := by
  have hstep := collectStep_collect hash c next
  generalize c.collect hash next = out at hstep ⊢
  cases hstep with
  | unseen => exact (List.append_nil observed).symm ▸ h
  | @kept o' b published height =>
    refine ⟨h.chainId_eq, .inr ?_⟩
    rcases h.latest with ⟨-, hnone⟩ | ⟨o, hfirst, hlatest⟩
    · exact nomatch published.symm.trans hnone
    · obtain rfl := Option.some.inj (published.symm.trans hlatest)
      exact ⟨o, hfirst.append_singleton height, hlatest⟩
  | @replaced o' above =>
    refine ⟨h.chainId_eq, .inr ⟨o', firstHighest_append_singleton ?_, rfl⟩⟩
    rcases h.latest with ⟨rfl, -⟩ | ⟨o, hfirst, hlatest⟩
    · exact nofun
    · exact fun p hp => UInt64.lt_of_le_of_lt (hfirst.height_le hp) (above _ hlatest)

/-- At every point of a run the first of the highest observations is published. -/
theorem publishes_afterObservations (hash : Bytes → Digest) (chainId : String)
    (seen : List (Except SourceError Observation)) :
    (afterObservations hash { chainId } seen).Publishes hash chainId (observedIn seen) := by
  induction seen using List.reverseRecOn with
  | nil => exact ⟨rfl, .inl ⟨rfl, rfl⟩⟩
  | append_singleton seen next ih =>
    rw [afterObservations_append_singleton, observedIn_append_singleton]
    exact ih.collect next

/-! ### Answers -/

private theorem proofFor?_of_latest {b : ProofBundle} (h : c.latest = some b) (path : Digest) :
    c.proofFor? path = b.proofFor? path := by
  rw [proofFor?, h]

private theorem written_of_latest {b : ProofBundle} (h : c.latest = some b) :
    c.written = Codec.json.encode ProofBundle.wire b := by
  rw [written, h]

/-- A collector answers from the bundle over an observation. -/
structure Answers (hash : Bytes → Digest) (c : ProofCollector) (o : Observation)
    (b : ProofBundle) : Prop where
  latest : c.latest = some b
  bundle : b = .ofTree hash c.chainId o.height (.ofList o.packets)
  /-- The proofs are valid, if there are not more packets than a word can count. -/
  proves (few : o.packets.toFinset.card < UInt64.size) : ∀ p ∈ b.proofs, p.proves hash b.root
  /-- A proof is found exactly where a packet was observed. -/
  isSome_proofFor? (path : Digest) :
    (c.proofFor? path).isSome ↔ ∃ packet ∈ o.packets, packet.path = path
  /-- The proof found is one of the bundle and about a packet under the path. -/
  proofFor? {path : Digest} {p : MembershipProof} (found : c.proofFor? path = some p) :
    p ∈ b.proofs ∧ p.leaf.path = path
  written_ne_nil : c.written ≠ []
  decode_written : Codec.json.decode ProofBundle.wire c.written = .ok b

/-- A collector answers from the bundle that it publishes. -/
theorem answers_of_latest (h : c.latest = some (bundleOf hash c.chainId o)) :
    c.Answers hash o (bundleOf hash c.chainId o) where
  latest := h
  bundle := rfl
  proves few := by
    rw [← CommitmentTree.size_ofList] at few
    exact (ProofBundle.covers_ofTree few).proves
  isSome_proofFor? path := by
    rw [proofFor?_of_latest h]
    exact ProofBundle.isSome_proofFor?_ofList
  proofFor? {path p} found := by
    rw [proofFor?_of_latest h] at found
    have hpath := List.find?_some found
    exact ⟨List.mem_of_find?_eq_some found, beq_iff_eq.1 hpath⟩
  written_ne_nil := by
    obtain ⟨byte, rest, hwritten, -⟩ := ProofBundle.textual.opens (bundleOf hash c.chainId o)
    rw [written_of_latest h, Codec.encode, hwritten]
    exact List.cons_ne_nil byte rest
  decode_written := by
    rw [written_of_latest h]
    exact Codec.decode_encode ProofBundle.textual ProofBundle.binary fun h => absurd h (by decide)

/-- **The published bundle never goes back.** Whatever is observed in a run, a collection replaces
the bundle exactly if its observation succeeds above it, reports the height of the bundle afterwards
and leaves everything as it was when the observation fails. Nothing is published as long as nothing
was observed. From then on the published bundle is that over the first of the highest observations:
its proofs are valid, a path has a proof exactly if a packet was observed there, and the written
form is read back. -/
theorem publishes_first_highest (hash : Bytes → Digest) (chainId : String)
    (seen : List (Except SourceError Observation)) :
    let observed := observedIn seen
    let c := afterObservations hash { chainId } seen
    c.chainId = chainId ∧
    (∀ next, CollectStep hash c next (c.collect hash next)) ∧
    ((observed = [] ∧ c.latest = none ∧ c.written = [] ∧ ∀ path, c.proofFor? path = none) ∨
      ∃ o b, FirstHighest o observed ∧ c.Answers hash o b) := by
  intro observed c
  obtain ⟨hchain, hlatest⟩ := publishes_afterObservations hash chainId seen
  refine ⟨hchain, collectStep_collect hash c, ?_⟩
  rcases hlatest with ⟨hnil, hnone⟩ | ⟨o, hfirst, hlatest⟩
  · refine .inl ⟨hnil, hnone, ?_, fun path => ?_⟩
    · rw [written, hnone]
    · rw [ProofCollector.proofFor?, hnone]
  · exact .inr ⟨o, _, hfirst, answers_of_latest hlatest⟩

/-- A run in which the chain is seen at heights 80, 90, 90 and 85, with a failure between. -/
def runAtNinety : List (Except SourceError Observation) :=
  [.ok ⟨80, 7, [ThreePackets.packet 4]⟩, .ok ⟨90, 8, ThreePackets.listing⟩,
    .error (.staleHeight 95 96), .ok ⟨90, 9, []⟩, .ok ⟨85, 9, [ThreePackets.packet 4]⟩]

open ThreePackets in
/-- Over a jump, a failed source, a repeated height and a fall, the first observation at height
ninety stays published. -/
theorem publishes_first_highest_at_ninety :
    FirstHighest ⟨90, 8, listing⟩ (observedIn runAtNinety) ∧
      listing.toFinset.card < UInt64.size ∧
      ∃ b, (afterObservations checksum ⟨"chain", none⟩ runAtNinety).Answers checksum
        ⟨90, 8, listing⟩ b ∧ ∀ p ∈ b.proofs, p.proves checksum b.root := by
  have hfirst : FirstHighest ⟨90, 8, listing⟩ (observedIn runAtNinety) :=
    ⟨[⟨80, 7, [packet 4]⟩], [⟨90, 9, []⟩, ⟨85, 9, [packet 4]⟩], rfl, by decide, by decide⟩
  have hfew : listing.toFinset.card < UInt64.size :=
    (List.toFinset_card_le listing).trans_lt (by decide)
  refine ⟨hfirst, hfew, ?_⟩
  obtain ⟨-, -, ⟨hnil, -⟩ | ⟨o, b, hfirst', hanswers⟩⟩ :=
    publishes_first_highest checksum "chain" runAtNinety
  · exact nomatch hnil
  · obtain rfl := hfirst.unique hfirst'
    exact ⟨b, hanswers, hanswers.proves hfew⟩

end ProofCollector

end Attestation
