import Attestation.Proofs.Bytes
import Attestation.Proofs.Client.Registration
import Attestation.Proofs.Wire.Checked

/-!
# Decoded attestor sets

An attestor set is written as the list of its attestors, alone or somewhere in a state or message. A
draft is such a state or message with any list of attestors in the place of the set, and it is read
as the state or message is, except that the list is not checked. So the draft tells which attestors
are listed in the input. What is decoded is the draft completed with the set that
`AttestorSet.ofList` makes of its attestors (`SetCarrier.checked_wire`), in both codecs and in every
form in which the input may be written.
-/

namespace Attestation

open WireFormat

/-! ### Drafts -/

/-- A client state whose attestors are only listed. -/
structure ClientState.Draft where
  clientId : String
  chainId : String
  members : List Attestor
  policy : QuorumPolicy
  latestHeight : UInt64
  latestRoot : Digest
  status : Status
  historyWindow : UInt64

/-- A client whose attestors are only listed. -/
structure Client.Draft where
  state : ClientState.Draft
  history : History

/-- What creates a client whose attestors are only listed. -/
structure CreateClient.Draft where
  state : ClientState.Draft
  initial : Option ConsensusState

/-- What replaces the attestors of a client by attestors that are only listed. -/
structure UpdateAttestors.Draft where
  members : List Attestor
  policy : QuorumPolicy
deriving DecidableEq

/-- The client state of a draft with a set of attestors. -/
def ClientState.Draft.complete (d : ClientState.Draft) (attestors : AttestorSet) : ClientState :=
  { d with attestors }

/-- Drafts of client states, as client states but for the list of attestors. -/
def ClientState.Draft.wire : WireFormat ClientState.Draft :=
  (record (.cons "client_id" text (.cons "chain_id" text
    (.cons "attestor_set" (list Attestor.wire) (.cons "quorum_policy" QuorumPolicy.wire
    (.cons "latest_trusted_height" word (.cons "latest_trusted_root" Digest.wire
    (.cons "status" Status.wire (.cons "history_window" word .nil))))))))).view
    (fun (clientId, chainId, members, policy, latestHeight, latestRoot, status, window, ()) =>
      ⟨clientId, chainId, members, policy, latestHeight, latestRoot, status, window⟩)
    fun d => (d.clientId, d.chainId, d.members, d.policy, d.latestHeight, d.latestRoot, d.status,
      d.historyWindow, ())

/-- Drafts of clients. -/
def Client.Draft.wire : WireFormat Client.Draft :=
  (record (.cons "client_state" ClientState.Draft.wire
    (.cons "consensus_states" (map ConsensusState.wire) .nil))).view
    (fun (state, history, ()) => ⟨state, history⟩)
    fun d => (d.state, d.history, ())

/-- Drafts of messages that create a client. -/
def CreateClient.Draft.wire : WireFormat CreateClient.Draft :=
  (record (.cons "client_state" ClientState.Draft.wire
    (.cons "consensus_state" (optional ConsensusState.wire) .nil))).view
    (fun (state, initial, ()) => ⟨state, initial⟩)
    fun d => (d.state, d.initial, ())

/-- Drafts of messages that replace the attestors of a client. -/
def UpdateAttestors.Draft.wire : WireFormat UpdateAttestors.Draft :=
  (record (.cons "attestor_set" (list Attestor.wire)
    (.cons "quorum_policy" QuorumPolicy.wire .nil))).view
    (fun (members, policy, ()) => ⟨members, policy⟩)
    fun d => (d.members, d.policy, ())

/-! ### What carries an attestor set -/

/-- The types of states and messages that hold an attestor set. -/
inductive SetCarrier where
  | attestorSet
  | clientState
  | client
  | createClient
  | updateAttestors
deriving DecidableEq

namespace SetCarrier

/-- The values of a type. -/
abbrev Value : SetCarrier → Type
  | attestorSet => AttestorSet
  | clientState => ClientState
  | client => Client
  | createClient => CreateClient
  | updateAttestors => UpdateAttestors

/-- The drafts of values. -/
abbrev Draft : SetCarrier → Type
  | attestorSet => List Attestor
  | clientState => ClientState.Draft
  | client => Client.Draft
  | createClient => CreateClient.Draft
  | updateAttestors => UpdateAttestors.Draft

/-- The format of values. -/
def wire : (carrier : SetCarrier) → WireFormat carrier.Value
  | attestorSet => AttestorSet.wire
  | clientState => ClientState.wire
  | client => Client.wire
  | createClient => CreateClient.wire
  | updateAttestors => UpdateAttestors.wire

/-- The format of drafts. -/
def draftWire : (carrier : SetCarrier) → WireFormat carrier.Draft
  | attestorSet => list Attestor.wire
  | clientState => ClientState.Draft.wire
  | client => Client.Draft.wire
  | createClient => CreateClient.Draft.wire
  | updateAttestors => UpdateAttestors.Draft.wire

/-- The attestor set in a value. -/
def attestors : (carrier : SetCarrier) → carrier.Value → AttestorSet
  | attestorSet, set => set
  | clientState, s => s.attestors
  | client, c => c.state.attestors
  | createClient, m => m.state.attestors
  | updateAttestors, m => m.attestors

/-- The attestors listed in a draft. -/
def members : (carrier : SetCarrier) → carrier.Draft → List Attestor
  | attestorSet, members => members
  | clientState, d => d.members
  | client, d => d.state.members
  | createClient, d => d.state.members
  | updateAttestors, d => d.members

/-- The value of a draft with a set of attestors. -/
def complete : (carrier : SetCarrier) → carrier.Draft → AttestorSet → carrier.Value
  | attestorSet, _, set => set
  | clientState, d, set => d.complete set
  | client, d, set => ⟨d.state.complete set, d.history⟩
  | createClient, d, set => ⟨d.state.complete set, d.initial⟩
  | updateAttestors, d, set => ⟨set, d.policy⟩

@[simp]
private theorem attestors_complete (carrier : SetCarrier) (d : carrier.Draft) (set : AttestorSet) :
    carrier.attestors (carrier.complete d set) = set := by
  cases carrier <;> rfl

/-- The value of a draft, unless something is wrong with its attestors. -/
def check (carrier : SetCarrier) (d : carrier.Draft) : Except DecodeError carrier.Value :=
  (AttestorSet.ofList (carrier.members d)).mapError .attestors >>= fun set =>
    .ok (carrier.complete d set)

/-- A check makes the set of the listing first; what comes after it gets the completed draft. -/
private theorem check_bind {α : Type} (carrier : SetCarrier) (d : carrier.Draft)
    {l : carrier.Value → Except DecodeError α} : carrier.check d >>= l =
      (AttestorSet.ofList (carrier.members d)).mapError .attestors >>= fun set =>
        l (carrier.complete d set) :=
  bind_assoc _ _ _

/-- What is decoded is a draft with the set of its attestors. -/
theorem checked_wire (carrier : SetCarrier) :
    WireFormat.Checked carrier.check carrier.draftWire carrier.wire := by
  -- the set is checked where it stands, and the check passes through the fields around it
  have hset : WireFormat.Checked (fun members => (AttestorSet.ofList members).mapError .attestors)
      (list Attestor.wire) AttestorSet.wire := checked_refine rfl _ _
  have hstate : WireFormat.Checked clientState.check ClientState.Draft.wire ClientState.wire := by
    rw [ClientState.Draft.wire, ClientState.wire]
    refine (Fields.checked_cons hset "attestor_set" _ |>.behind "chain_id" text
      |>.behind "client_id" text).record.view fun a => ?_
    rw [checkSnd_bind, checkSnd_bind, checkFst_bind]
    rfl
  cases carrier with
  | attestorSet =>
    have hcheck : attestorSet.check = fun members =>
        (AttestorSet.ofList members).mapError .attestors := funext fun _ => bind_pure _
    exact hcheck ▸ hset
  | clientState => exact hstate
  | client =>
    rw [draftWire, wire, Client.Draft.wire, Client.wire]
    refine (Fields.checked_cons hstate "client_state" _).record.view fun a => ?_
    rw [checkFst_bind, check_bind]
    rfl
  | createClient =>
    rw [draftWire, wire, CreateClient.Draft.wire, CreateClient.wire]
    refine (Fields.checked_cons hstate "client_state" _).record.view fun a => ?_
    rw [checkFst_bind, check_bind]
    rfl
  | updateAttestors =>
    rw [draftWire, wire, UpdateAttestors.Draft.wire, UpdateAttestors.wire]
    refine (Fields.checked_cons hset "attestor_set" _).record.view fun a => ?_
    rw [checkFst_bind]
    rfl

/-- A draft passes the check exactly if its listing becomes the set of the value. -/
theorem check_eq_ok_iff {carrier : SetCarrier} {d : carrier.Draft} {v : carrier.Value} :
    carrier.check d = .ok v ↔
      AttestorSet.ofList (carrier.members d) = .ok (carrier.attestors v) ∧
        carrier.complete d (carrier.attestors v) = v := by
  constructor
  · intro h
    obtain ⟨set, hset, hv⟩ := bind_eq_ok.1 h
    obtain rfl := Except.ok.inj hv
    rw [attestors_complete]
    exact ⟨mapError_eq_ok.1 hset, rfl⟩
  · rintro ⟨hset, hv⟩
    rw [check, hset]
    exact congrArg Except.ok hv

end SetCarrier

/-! ### Decoding -/

/-- The ids of a set increase by their bytes, too. -/
theorem AttestorSet.pairwise_ofText_lt (set : AttestorSet) :
    set.members.Pairwise fun a b => Bytes.ofText a.id < Bytes.ofText b.id :=
  (List.pairwise_map.1 set.sorted).imp fun h =>
    Bytes.ofText_lt_ofText (compareOfLessAndEq_eq_lt.1 h)

/-- **No invalid attestor set is decoded.** For both codecs and everything that carries an attestor
set, at any depth: a value is decoded from some bytes exactly if it is the draft in them, completed
with the set of the attestors that the draft lists. So the set is not empty, its ids strictly
increase in the order of their bytes, its addresses are distinct and its weights positive. If the
listed attestors do not form a set, decoding fails for the reason that they do not. -/
theorem decodes_valid_sets (codec : Codec) (carrier : SetCarrier) (bytes : Bytes) :
    (∀ v, codec.decode carrier.wire bytes = .ok v ↔
      ∃ d, codec.decode carrier.draftWire bytes = .ok d ∧
        AttestorSet.ofList (carrier.members d) = .ok (carrier.attestors v) ∧
        carrier.complete d (carrier.attestors v) = v) ∧
    (∀ v, codec.decode carrier.wire bytes = .ok v →
      (carrier.attestors v).members ≠ [] ∧
      ((carrier.attestors v).members.Pairwise fun a b => Bytes.ofText a.id < Bytes.ofText b.id) ∧
      ((carrier.attestors v).members.map (·.address)).Nodup ∧
      ∀ a ∈ (carrier.attestors v).members, a.weight ≠ 0) ∧
    ∀ d, codec.decode carrier.draftWire bytes = .ok d →
      ¬ AttestorSet.Registrable (carrier.members d) →
      ∃ e, AttestorSet.ofList (carrier.members d) = .error e ∧
        codec.decode carrier.wire bytes = .error (.attestors e) := by
  have hchecks := codec.checks_decode carrier.checked_wire bytes
  refine ⟨fun v => ?_, fun v _ => ?_, fun d hd hbad => ?_⟩
  · rw [hchecks.eq_ok_iff]
    simp only [SetCarrier.check_eq_ok_iff]
  · exact ⟨(carrier.attestors v).nonempty, (carrier.attestors v).pairwise_ofText_lt,
      (carrier.attestors v).addresses_nodup, (carrier.attestors v).weight_ne_zero⟩
  · rw [hchecks.eq_check hd, SetCarrier.check]
    cases hset : AttestorSet.ofList (carrier.members d) with
    | error e => exact ⟨e, rfl, rfl⟩
    | ok set => exact absurd (AttestorSet.exists_ofList_iff.1 ⟨set, hset⟩) hbad

/-- A message that lists two attestors under one id. -/
def UpdateAttestors.Draft.repeated : UpdateAttestors.Draft :=
  ⟨[⟨"b", .replicate 20 1, 1⟩, ⟨"a", .replicate 20 2, 1⟩, ⟨"b", .replicate 20 3, 1⟩], .count 2⟩

/-- A message that lists an id twice has a draft, and is refused for the id. -/
theorem decodes_valid_sets_repeated_id :
    let text := Codec.json.encode UpdateAttestors.Draft.wire .repeated
    Codec.json.decode UpdateAttestors.Draft.wire text = .ok .repeated ∧
      ¬ AttestorSet.Registrable UpdateAttestors.Draft.repeated.members ∧
      ∃ e, Codec.json.decode UpdateAttestors.wire text = .error (.attestors e) := by
  intro text
  have hdraft : Codec.json.decode UpdateAttestors.Draft.wire text = .ok .repeated := by
    decide +kernel
  have hbad : ¬ AttestorSet.Registrable UpdateAttestors.Draft.repeated.members :=
    fun h => absurd h.ids_nodup (by decide)
  obtain ⟨e, -, he⟩ := (decodes_valid_sets .json .updateAttestors text).2.2 .repeated hdraft hbad
  exact ⟨hdraft, hbad, e, he⟩

end Attestation
