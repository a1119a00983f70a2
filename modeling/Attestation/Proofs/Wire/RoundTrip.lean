import Attestation.Proofs.Wire.Canonical
import Attestation.Proofs.Wire.Messages

/-!
# Every message and state reads back

`MessageKind` lists all that the codecs carry, so that the laws of the two codecs can be stated over
every kind at once. The JSON text reads back with blanks around it and tells values apart
(`Codec.json_round_trip`). The binary layout reads back whatever follows it, and a value is read
from its own binary form only, except where a set or a map is in it (`Codec.binary_round_trip`). For
the binary layout lengths have to be written in eight bytes (`MessageKind.Short`), as the lengths of
all texts and lists held in memory can; this is all it takes.
-/

namespace Attestation

open WireFormat

/-! ### Plain messages -/

theorem Packet.canonical : Packet.wire.Canonical := by
  have hfields := consumes_nil.cons "commitment" (canonical_fixed 32)
    |>.cons "path" (canonical_fixed 32)
  exact hfields.record.view fun _ => rfl

theorem Snapshot.canonical : Snapshot.wire.Canonical := by
  have hfields := consumes_nil.cons "collected_at" canonical_word
    |>.cons "commitment_root" (canonical_fixed 32) |>.cons "height" canonical_word
    |>.cons "chain_id" canonical_text
  exact hfields.record.view fun _ => rfl

theorem Claim.canonical : Claim.wire.Canonical := by
  have hfields := consumes_nil.cons "signature" canonical_byte.list
    |>.cons "attestor_id" canonical_text |>.cons "snapshot" Snapshot.canonical
  exact hfields.record.view fun _ => rfl

theorem MembershipProof.canonical : MembershipProof.wire.Canonical := by
  have hfields := consumes_nil.cons "siblings" (canonical_fixed 32).list
    |>.cons "leaf_count" canonical_word |>.cons "leaf_index" canonical_word
    |>.cons "leaf" Packet.canonical |>.cons "height" canonical_word
  exact hfields.record.view fun _ => rfl

theorem ProofBundle.canonical : ProofBundle.wire.Canonical := by
  have hfields := consumes_nil.cons "proofs" MembershipProof.canonical.list
    |>.cons "commitment_root" (canonical_fixed 32) |>.cons "height" canonical_word
    |>.cons "chain_id" canonical_text
  exact hfields.record.view fun _ => rfl

theorem QuorumPolicy.canonical : QuorumPolicy.wire.Canonical := by
  have hthreshold := consumes_nil.cons "threshold" canonical_word
  refine (Canonical.choice (.fields "count" _) (.fields "weighted" _) hthreshold.record
    hthreshold.record).view fun p => ?_
  rcases p with p | p <;> rfl

theorem Status.canonical : Status.wire.Canonical := by
  have hheight := consumes_nil.cons "height" canonical_word
  refine (Canonical.choice (.unit "active") (.fields "frozen" _) (canonical_unit "active")
    hheight.record).view fun p => ?_
  rcases p with p | p <;> rfl

theorem ConsensusState.canonical : ConsensusState.wire.Canonical := by
  have hfields := consumes_nil.cons "timestamp" canonical_word
    |>.cons "commitment_root" (canonical_fixed 32) |>.cons "height" canonical_word
  exact hfields.record.view fun _ => rfl

/-! ### Kinds of messages -/

/-- What the codecs carry. -/
inductive MessageKind where
  | packet
  | snapshot
  | claim
  | claims
  | proof
  | bundle
  | attestorSet
  | policy
  | status
  | clientState
  | consensusState
  | client
  | createClient
  | updateAttestors
deriving DecidableEq

namespace MessageKind

/-- The values of a kind. -/
abbrev Value : MessageKind → Type
  | packet => Packet
  | snapshot => Snapshot
  | claim => Claim
  | claims => List Claim
  | proof => MembershipProof
  | bundle => ProofBundle
  | attestorSet => AttestorSet
  | policy => QuorumPolicy
  | status => Status
  | clientState => ClientState
  | consensusState => ConsensusState
  | client => Client
  | createClient => CreateClient
  | updateAttestors => UpdateAttestors

/-- The format of a kind. -/
def wire : (kind : MessageKind) → WireFormat kind.Value
  | packet => Packet.wire
  | snapshot => Snapshot.wire
  | claim => Claim.wire
  | claims => list Claim.wire
  | proof => MembershipProof.wire
  | bundle => ProofBundle.wire
  | attestorSet => AttestorSet.wire
  | policy => QuorumPolicy.wire
  | status => Status.wire
  | clientState => ClientState.wire
  | consensusState => ConsensusState.wire
  | client => Client.wire
  | createClient => CreateClient.wire
  | updateAttestors => UpdateAttestors.wire

/-- The texts and listings of a value have lengths that can be written in eight bytes, as all have
that are held in memory. -/
def Short : (kind : MessageKind) → kind.Value → Prop
  | packet, _ | policy, _ | status, _ | consensusState, _ => True
  | snapshot, s => WireFormat.Short (Bytes.ofText s.chainId)
  | claim, c => c.Short
  | claims, l => WireFormat.Short l ∧ ∀ c ∈ l, c.Short
  | proof, p => WireFormat.Short p.siblings
  | bundle, b => b.Short
  | attestorSet, set => set.Short
  | clientState, s => s.Short
  | client, c => c.Short
  | createClient, m => m.state.Short
  | updateAttestors, m => m.attestors.Short

/-- Whether neither an attestor set nor a map is in the values of a kind. -/
def isPlain : MessageKind → Bool
  | attestorSet | clientState | client | createClient | updateAttestors => false
  | _ => true

/-- Every kind of message is read back from its JSON text. -/
theorem textual (kind : MessageKind) : kind.wire.Textual := by
  cases kind with
  | packet => exact Packet.textual
  | snapshot => exact Snapshot.textual
  | claim => exact Claim.textual
  | claims => exact Claim.textual.list
  | proof => exact MembershipProof.textual
  | bundle => exact ProofBundle.textual
  | attestorSet => exact AttestorSet.textual
  | policy => exact QuorumPolicy.textual
  | status => exact Status.textual
  | clientState => exact ClientState.textual
  | consensusState => exact ConsensusState.textual
  | client => exact Client.textual
  | createClient => exact CreateClient.textual
  | updateAttestors => exact UpdateAttestors.textual

/-- Every kind of message is read back from its binary form if its lengths fit. -/
theorem binary (kind : MessageKind) : kind.wire.Binary kind.Short := by
  cases kind with
  | packet => exact Packet.binary
  | snapshot => exact Snapshot.binary
  | claim => exact Claim.binary
  | claims => exact Claim.binary.list
  | proof => exact MembershipProof.binary
  | bundle => exact ProofBundle.binary
  | attestorSet => exact AttestorSet.binary
  | policy => exact QuorumPolicy.binary
  | status => exact Status.binary
  | clientState => exact ClientState.binary
  | consensusState => exact ConsensusState.binary
  | client => exact Client.binary
  | createClient => exact CreateClient.binary
  | updateAttestors => exact UpdateAttestors.binary

/-- A message without set and map is read from its own binary form only. -/
theorem canonical {kind : MessageKind} (h : kind.isPlain) : kind.wire.Canonical := by
  cases kind with
  | packet => exact Packet.canonical
  | snapshot => exact Snapshot.canonical
  | claim => exact Claim.canonical
  | claims => exact Claim.canonical.list
  | proof => exact MembershipProof.canonical
  | bundle => exact ProofBundle.canonical
  | policy => exact QuorumPolicy.canonical
  | status => exact Status.canonical
  | consensusState => exact ConsensusState.canonical
  | _ => contradiction

end MessageKind

/-! ### The two codecs -/

namespace Codec

variable (kind : MessageKind)

/-- Every message and state is read back from its JSON text, with blanks around it, and no two have
the same text. -/
theorem json_round_trip {before after : Bytes} (hbefore : ∀ b ∈ before, Json.isBlank b)
    (hafter : ∀ b ∈ after, Json.isBlank b) :
    (∀ a, json.decode kind.wire (before ++ json.encode kind.wire a ++ after) = .ok a) ∧
      Function.Injective (json.encode kind.wire) := by
  have hread := json_decode_encode kind.textual hbefore hafter
  refine ⟨hread, fun a b hab => ?_⟩
  have hab' := hread a
  rw [hab, hread b] at hab'
  exact (Except.ok.inj hab').symm

/-- A snapshot of a chain whose id needs escapes, at the greatest height, between a line end and a
blank. -/
theorem json_round_trip_snapshot :
    (∀ b ∈ ([0x0a] : Bytes), Json.isBlank b) ∧ (∀ b ∈ ([0x20] : Bytes), Json.isBlank b) ∧
    json.decode Snapshot.wire ([0x0a] ++
      json.encode Snapshot.wire ⟨"\"α\n", 18446744073709551615, .replicate 32 171, 0⟩ ++ [0x20]) =
        .ok ⟨"\"α\n", 18446744073709551615, .replicate 32 171, 0⟩ ∧
    Function.Injective (json.encode Snapshot.wire) := by
  have hbefore : ∀ b ∈ ([0x0a] : Bytes), Json.isBlank b := List.forall_mem_singleton.2 rfl
  have hafter : ∀ b ∈ ([0x20] : Bytes), Json.isBlank b := List.forall_mem_singleton.2 rfl
  have htrip := json_round_trip .snapshot hbefore hafter
  exact ⟨hbefore, hafter, htrip.1 _, htrip.2⟩

/-- The binary layout is read back in front of anything if all lengths fit, and not otherwise. No
binary form is the beginning of another, and where neither a set nor a map is in the message, it is
read from its own binary form only. -/
theorem binary_round_trip :
    (∀ a, kind.Short a ↔
      ∀ t, binary.decode kind.wire (binary.encode kind.wire a ++ t) = .ok a) ∧
    (∀ a b, kind.Short a → kind.Short b →
      binary.encode kind.wire a <+: binary.encode kind.wire b → a = b) ∧
    (kind.isPlain → ∀ bytes a, binary.decode kind.wire bytes = .ok a →
      binary.encode kind.wire a <+: bytes) := by
  refine ⟨fun a => ⟨binary_decode_encode kind.binary, fun h => ?_⟩, fun a b ha hb hprefix => ?_,
    fun hplain bytes a h => ?_⟩
  · exact fits_of_decode kind.binary (h []) rfl
  · -- what reads the second finds the first in front of it
    obtain ⟨t, htext⟩ := hprefix
    have hread := binary_decode_encode kind.binary ha t
    have hread' := binary_decode_encode kind.binary hb []
    rw [htext] at hread
    rw [List.append_nil, hread] at hread'
    exact Except.ok.inj hread'
  · rw [decode] at h
    obtain ⟨out, hout⟩ := map_eq_ok h
    rw [hout] at h
    obtain rfl : out.1 = a := Except.ok.inj h
    exact ⟨out.2, (MessageKind.canonical hplain hout).symm⟩

/-- A map is also read from a listing that is not in the order of its keys. -/
example :
    let listing := binary.encode (list (entry word)) [(2, 5), (1, 7)]
    (binary.decode (map word) listing).map (binary.encode (map word)) =
      .ok (binary.encode (list (entry word)) [(1, 7), (2, 5)]) := by
  decide +kernel

end Codec

end Attestation
