import Attestation.Proofs.Client.Registration
import Attestation.Proofs.Wire.Map

/-!
# Messages and states read back

The laws of the binary layout and of the JSON text for what is sent and stored, put together from
those of the parts. An attestor set is written as the list of its attestors and read as the set of a
list, which for such a list is the set again (`AttestorSet.ofList_members`). The JSON text carries
every value, with blanks around it; the binary layout carries those whose texts and listings are
short enough for their lengths to be written, which all values are that were read from it
(`Codec.fits_of_decode`).
-/

namespace Attestation

open WireFormat

/-! ### Lengths that fit -/

/-- The number of attestors and the lengths of their ids can be written in eight bytes. -/
def AttestorSet.Short (set : AttestorSet) : Prop :=
  WireFormat.Short set.members ∧ ∀ a ∈ set.members, WireFormat.Short (Bytes.ofText a.id)

/-- The texts and the signature of a claim have lengths that can be written in eight bytes. -/
structure Claim.Short (c : Claim) : Prop where
  chainId : WireFormat.Short (Bytes.ofText c.snapshot.chainId)
  attestorId : WireFormat.Short (Bytes.ofText c.attestorId)
  signature : WireFormat.Short c.signature

/-- The chain, the proofs and their paths have lengths that can be written in eight bytes. -/
structure ProofBundle.Short (b : ProofBundle) : Prop where
  chainId : WireFormat.Short (Bytes.ofText b.chainId)
  proofs : WireFormat.Short b.proofs
  siblings : ∀ p ∈ b.proofs, WireFormat.Short p.siblings

/-- The texts and the attestors of a state have lengths that can be written in eight bytes. -/
structure ClientState.Short (s : ClientState) : Prop where
  clientId : WireFormat.Short (Bytes.ofText s.clientId)
  chainId : WireFormat.Short (Bytes.ofText s.chainId)
  attestors : s.attestors.Short

/-- The state and the history of a client have lengths that can be written in eight bytes. -/
structure Client.Short (c : Client) : Prop where
  state : c.state.Short
  history : WireFormat.Short c.history.toList

/-! ### The binary layout -/

theorem binary_digest : Digest.wire.Binary fun _ => True := binary_fixed (by decide)

theorem binary_address : Address.wire.Binary fun _ => True := binary_fixed (by decide)

theorem Packet.binary : Packet.wire.Binary fun _ => True := by
  have hfields := codes_nil.cons "commitment" binary_digest |>.cons "path" binary_digest
  refine (hfields.record.view (fun _ => rfl) fun _ => rfl).congr fun p => ?_
  simp

/-- A snapshot fits if its chain id does. -/
theorem Snapshot.binary : Snapshot.wire.Binary fun s => Short (Bytes.ofText s.chainId) := by
  have hfields := codes_nil.cons "collected_at" binary_word
    |>.cons "commitment_root" binary_digest |>.cons "height" binary_word
    |>.cons "chain_id" binary_text
  refine (hfields.record.view (fun _ => rfl) fun _ => rfl).congr fun s => ?_
  simp

/-- A claim fits if its texts and its signature do. -/
theorem Claim.binary : Claim.wire.Binary Claim.Short := by
  have hfields := codes_nil.cons "signature" binary_byte.list |>.cons "attestor_id" binary_text
    |>.cons "snapshot" Snapshot.binary
  refine (hfields.record.view (fun _ => rfl) fun _ => rfl).congr fun c => ?_
  simp only [and_true, implies_true]
  exact ⟨fun h => ⟨h.1, h.2.1, h.2.2⟩, fun h => ⟨h.chainId, h.attestorId, h.signature⟩⟩

theorem MembershipProof.binary : MembershipProof.wire.Binary fun p => Short p.siblings := by
  have hfields := codes_nil.cons "siblings" binary_digest.list |>.cons "leaf_count" binary_word
    |>.cons "leaf_index" binary_word |>.cons "leaf" Packet.binary |>.cons "height" binary_word
  refine (hfields.record.view (fun _ => rfl) fun _ => rfl).congr fun p => ?_
  simp

/-- A bundle fits if its chain id, its proofs and their paths do. -/
theorem ProofBundle.binary : ProofBundle.wire.Binary ProofBundle.Short := by
  have hfields := codes_nil.cons "proofs" MembershipProof.binary.list
    |>.cons "commitment_root" binary_digest |>.cons "height" binary_word
    |>.cons "chain_id" binary_text
  refine (hfields.record.view (fun _ => rfl) fun _ => rfl).congr fun b => ?_
  simp only [and_true, true_and]
  exact ⟨fun h => ⟨h.1, h.2.1, h.2.2⟩, fun h => ⟨h.chainId, h.proofs, h.siblings⟩⟩

theorem Attestor.binary : Attestor.wire.Binary fun a => Short (Bytes.ofText a.id) := by
  have hfields := codes_nil.cons "weight" binary_word |>.cons "address" binary_address
    |>.cons "id" binary_text
  refine (hfields.record.view (fun _ => rfl) fun _ => rfl).congr fun a => ?_
  simp

/-- A set is read back from the list of its attestors. -/
theorem AttestorSet.binary : AttestorSet.wire.Binary AttestorSet.Short := by
  refine Attestor.binary.list.refine (fun set => ?_) fun members set hset hfits => ?_
  · rw [AttestorSet.ofList_members]
    rfl
  · have hperm := AttestorSet.ofList_eq_ok_iff.1 (mapError_eq_ok.1 hset)
    exact ⟨hperm.length_eq.trans_lt hfits.1, fun a ha => hfits.2 a (hperm.mem_iff.1 ha)⟩

theorem QuorumPolicy.binary : QuorumPolicy.wire.Binary fun _ => True := by
  have hthreshold := codes_nil.cons "threshold" binary_word
  refine (Binary.choice (.fields "count" _) (.fields "weighted" _) hthreshold.record
    hthreshold.record |>.view (fun p => ?_) fun p => ?_).congr fun p => ?_
  · cases p <;> rfl
  · rcases p with p | p <;> rfl
  · cases p <;> simp

theorem Status.binary : Status.wire.Binary fun _ => True := by
  have hheight := codes_nil.cons "height" binary_word
  refine (Binary.choice (.unit "active") (.fields "frozen" _) (binary_unit "active")
    hheight.record |>.view (fun p => ?_) fun p => ?_).congr fun p => ?_
  · cases p <;> rfl
  · rcases p with p | p <;> rfl
  · cases p <;> simp

theorem ConsensusState.binary : ConsensusState.wire.Binary fun _ => True := by
  have hfields := codes_nil.cons "timestamp" binary_word |>.cons "commitment_root" binary_digest
    |>.cons "height" binary_word
  refine (hfields.record.view (fun _ => rfl) fun _ => rfl).congr fun c => ?_
  simp

/-- A state fits if its ids and its attestors do. -/
theorem ClientState.binary : ClientState.wire.Binary ClientState.Short := by
  have hfields := codes_nil.cons "history_window" binary_word |>.cons "status" Status.binary
    |>.cons "latest_trusted_root" binary_digest |>.cons "latest_trusted_height" binary_word
    |>.cons "quorum_policy" QuorumPolicy.binary |>.cons "attestor_set" AttestorSet.binary
    |>.cons "chain_id" binary_text |>.cons "client_id" binary_text
  refine (hfields.record.view (fun _ => rfl) fun _ => rfl).congr fun s => ?_
  simp only [and_true]
  exact ⟨fun h => ⟨h.1, h.2.1, h.2.2⟩, fun h => ⟨h.clientId, h.chainId, h.attestors⟩⟩

/-- A client fits if its state and the number of its roots do. -/
theorem Client.binary : Client.wire.Binary Client.Short := by
  have hfields := codes_nil.cons "consensus_states" ConsensusState.binary.map
    |>.cons "client_state" ClientState.binary
  refine (hfields.record.view (fun _ => rfl) fun _ => rfl).congr fun c => ?_
  simp only [and_true, implies_true]
  exact ⟨fun h => ⟨h.1, h.2⟩, fun h => ⟨h.state, h.history⟩⟩

theorem CreateClient.binary : CreateClient.wire.Binary fun m => m.state.Short := by
  have hfields := codes_nil.cons "consensus_state" ConsensusState.binary.optional
    |>.cons "client_state" ClientState.binary
  refine (hfields.record.view (fun _ => rfl) fun _ => rfl).congr fun m => ?_
  simp

theorem UpdateAttestors.binary : UpdateAttestors.wire.Binary fun m => m.attestors.Short := by
  have hfields := codes_nil.cons "quorum_policy" QuorumPolicy.binary
    |>.cons "attestor_set" AttestorSet.binary
  refine (hfields.record.view (fun _ => rfl) fun _ => rfl).congr fun m => ?_
  simp

/-! ### The JSON text -/

theorem Packet.textual : Packet.wire.Textual := by
  have hfields := textual_nil.cons "commitment" (textual_fixed 32) (by decide)
    |>.cons "path" (textual_fixed 32) (by decide)
  exact hfields.record.view fun _ => rfl

theorem Snapshot.textual : Snapshot.wire.Textual := by
  have hfields := textual_nil.cons "collected_at" textual_word (by decide)
    |>.cons "commitment_root" (textual_fixed 32) (by decide)
    |>.cons "height" textual_word (by decide)
    |>.cons "chain_id" textual_text (by decide)
  exact hfields.record.view fun _ => rfl

theorem Claim.textual : Claim.wire.Textual := by
  have hfields := textual_nil.cons "signature" textual_byte.list (by decide)
    |>.cons "attestor_id" textual_text (by decide)
    |>.cons "snapshot" Snapshot.textual (by decide)
  exact hfields.record.view fun _ => rfl

theorem MembershipProof.textual : MembershipProof.wire.Textual := by
  have hfields := textual_nil.cons "siblings" (textual_fixed 32).list (by decide)
    |>.cons "leaf_count" textual_word (by decide)
    |>.cons "leaf_index" textual_word (by decide)
    |>.cons "leaf" Packet.textual (by decide)
    |>.cons "height" textual_word (by decide)
  exact hfields.record.view fun _ => rfl

theorem ProofBundle.textual : ProofBundle.wire.Textual := by
  have hfields := textual_nil.cons "proofs" MembershipProof.textual.list (by decide)
    |>.cons "commitment_root" (textual_fixed 32) (by decide)
    |>.cons "height" textual_word (by decide)
    |>.cons "chain_id" textual_text (by decide)
  exact hfields.record.view fun _ => rfl

theorem Attestor.textual : Attestor.wire.Textual := by
  have hfields := textual_nil.cons "weight" textual_word (by decide)
    |>.cons "address" (textual_fixed 20) (by decide)
    |>.cons "id" textual_text (by decide)
  exact hfields.record.view fun _ => rfl

/-- A set is read back from the list of its attestors. -/
theorem AttestorSet.textual : AttestorSet.wire.Textual :=
  Attestor.textual.list.refine fun set => by
    rw [AttestorSet.ofList_members]
    rfl

theorem QuorumPolicy.textual : QuorumPolicy.wire.Textual := by
  have hthreshold := textual_nil.cons "threshold" textual_word (by decide)
  refine (Textual.choice (hthreshold.case "count") (hthreshold.case "weighted")
    (by decide)).view fun p => ?_
  cases p <;> rfl

theorem Status.textual : Status.wire.Textual := by
  have hheight := textual_nil.cons "height" textual_word (by decide)
  refine (Textual.choice (textual_unit "active") (hheight.case "frozen")
    (by decide)).view fun p => ?_
  cases p <;> rfl

theorem ConsensusState.textual : ConsensusState.wire.Textual := by
  have hfields := textual_nil.cons "timestamp" textual_word (by decide)
    |>.cons "commitment_root" (textual_fixed 32) (by decide)
    |>.cons "height" textual_word (by decide)
  exact hfields.record.view fun _ => rfl

theorem ClientState.textual : ClientState.wire.Textual := by
  have hfields := textual_nil.cons "history_window" textual_word (by decide)
    |>.cons "status" Status.textual (by decide)
    |>.cons "latest_trusted_root" (textual_fixed 32) (by decide)
    |>.cons "latest_trusted_height" textual_word (by decide)
    |>.cons "quorum_policy" QuorumPolicy.textual (by decide)
    |>.cons "attestor_set" AttestorSet.textual (by decide)
    |>.cons "chain_id" textual_text (by decide)
    |>.cons "client_id" textual_text (by decide)
  exact hfields.record.view fun _ => rfl

/-- A client is its state and the object of its roots. -/
theorem Client.textual : Client.wire.Textual := by
  have hfields := textual_nil.cons "consensus_states" ConsensusState.textual.map (by decide)
    |>.cons "client_state" ClientState.textual (by decide)
  exact hfields.record.view fun _ => rfl

theorem CreateClient.textual : CreateClient.wire.Textual := by
  -- a consensus state is an object, so its text does not begin like `null`
  have hinitial := ConsensusState.textual.optional fun _ _ h =>
    absurd (List.cons.inj h).1 (by decide)
  have hfields := textual_nil.cons "consensus_state" hinitial (by decide)
    |>.cons "client_state" ClientState.textual (by decide)
  exact hfields.record.view fun _ => rfl

theorem UpdateAttestors.textual : UpdateAttestors.wire.Textual := by
  have hfields := textual_nil.cons "quorum_policy" QuorumPolicy.textual (by decide)
    |>.cons "attestor_set" AttestorSet.textual (by decide)
  exact hfields.record.view fun _ => rfl

/-! ### Codecs -/

namespace Codec

variable {α : Type} {f : WireFormat α} {fits : α → Prop} {codec : Codec}

/-- A JSON text is read back with blanks around it. -/
theorem json_decode_encode (htextual : f.Textual) {before after : Bytes}
    (hbefore : ∀ b ∈ before, Json.isBlank b) (hafter : ∀ b ∈ after, Json.isBlank b) (a : α) :
    json.decode f (before ++ json.encode f a ++ after) = .ok a := by
  have hskip : Json.skipBlanks (before ++ json.encode f a ++ after) =
      (f.toJson a).write ++ after := by
    rw [List.append_assoc, Json.skipBlanks_append hbefore]
    exact (htextual.opens a).append.skipBlanks_eq
  refine bind_eq_ok.2 ⟨_, htextual.read_write hskip (Json.ends_of_blanks hafter), ?_⟩
  exact if_pos (Json.skipBlanks_eq_nil hafter)

/-- A binary form is read back whatever follows it. -/
theorem binary_decode_encode (hbinary : f.Binary fits) {a : α} (h : fits a) (t : Bytes) :
    binary.decode f (binary.encode f a ++ t) = .ok a := by
  rw [decode, encode, hbinary.read_write h t]
  rfl

/-- What is written is read back, in the binary layout if it fits. -/
theorem decode_encode (htextual : f.Textual) (hbinary : f.Binary fits) {a : α}
    (h : codec = .binary → fits a) : codec.decode f (codec.encode f a) = .ok a := by
  cases codec with
  | json =>
    have hblank : ∀ b ∈ ([] : Bytes), Json.isBlank b := nofun
    simpa using json_decode_encode htextual hblank hblank a
  | binary => simpa using binary_decode_encode hbinary (h rfl) []

/-- What is read from the binary layout fits it. -/
theorem fits_of_decode (hbinary : f.Binary fits) {bytes : Bytes} {a : α}
    (h : codec.decode f bytes = .ok a) (hcodec : codec = .binary) : fits a := by
  subst hcodec
  rw [decode] at h
  obtain ⟨out, hread⟩ := map_eq_ok h
  rw [hread] at h
  obtain rfl : out.1 = a := Except.ok.inj h
  exact hbinary.fits_of_read hread

end Codec

end Attestation
