import Attestation.Registry.Basic
import Attestation.Proofs.Except

/-!
# Calls of the registry

The calls that can change a registry as one type, and all that a call can do to the registry and to
a map of its clients (`Step`): every way to succeed, and every cause for which a call is refused
(`Refusal`), so that caller, bytes and clients decide what is answered.
-/

namespace Attestation

/-- The clients by their ids. -/
abbrev Clients := OrderedMap String Client

/-- What loading a client from a map comes to. -/
def Clients.load (clients : Clients) (id : String) : Except ClientError Client :=
  match clients.get? id with
  | some c => .ok c
  | none => .error (.clientNotFound id)

namespace Registry

/-! ### Calls -/

/-- A call that can change the registry, with whatever bytes it brings. -/
inductive Call where
  | setSubmitters (sender : String) (submitters : List String)
  | createClient (sender : String) (message : Bytes)
  | updateClient (sender clientId : String) (claims : Bytes)
  | updateAttestors (sender clientId : String) (message : Bytes)
  | recoverClient (sender clientId : String) (substitute : Bytes)

/-- What a call that succeeds answers. -/
inductive Answer where
  | done
  | created (clientId : String)
  | updated (outcome : UpdateOutcome)

namespace Call

/-- Who calls. -/
def sender : Call → String
  | setSubmitters sender .. | createClient sender .. | updateClient sender ..
  | updateAttestors sender .. | recoverClient sender .. => sender

/-- The privilege that a call takes. -/
def privilege : Call → Privilege
  | setSubmitters .. => .setSubmitters
  | createClient .. => .createClients
  | updateClient .. => .updateClients
  | updateAttestors .. => .updateAttestorSets
  | recoverClient .. => .recoverClients

/-- The client that a call is about; the id of a new one is told by its message. -/
def addressee : Call → Option String
  | setSubmitters .. | createClient .. => none
  | updateClient _ id _ | updateAttestors _ id _ | recoverClient _ id _ => some id

end Call

/-- A registry after a call that leaves it alone when it fails. -/
def settle (r : Registry) :
    Except ClientError (Registry × Answer) → Registry × Except ClientError Answer
  | .ok (r', answer) => (r', .ok answer)
  | .error cause => (r, .error cause)

/-- Makes a call. -/
def call (recover : Recovery) (r : Registry) : Call → Registry × Except ClientError Answer
  | .setSubmitters sender submitters =>
    r.settle ((r.setSubmitters sender submitters).map fun r' => (r', .done))
  | .createClient sender message =>
    r.settle ((r.createClient sender message).map fun (r', id) => (r', .created id))
  | .updateClient sender id claims =>
    ((r.updateClient recover sender id claims).1,
      (r.updateClient recover sender id claims).2.map .updated)
  | .updateAttestors sender id message =>
    r.settle ((r.updateAttestors sender id message).map fun r' => (r', .done))
  | .recoverClient sender id substitute =>
    r.settle ((r.recoverClient sender id substitute).map fun r' => (r', .done))

/-- Whether a registry lets a caller make a call. -/
def Allows (r : Registry) : Call → Prop
  | .updateClient sender .. => r.maySubmit sender
  | call => call.sender = r.authority

/-- Whether what a call brings can be decoded. -/
def decodes (r : Registry) : Call → Except ClientError Unit
  | .setSubmitters .. => .ok ()
  | .createClient _ message => (r.decode CreateClient.wire message).map fun _ => ()
  | .updateClient _ _ claims => (r.decode (WireFormat.list Claim.wire) claims).map fun _ => ()
  | .updateAttestors _ _ message => (r.decode UpdateAttestors.wire message).map fun _ => ()
  | .recoverClient _ _ substitute => (r.decode ClientState.wire substitute).map fun _ => ()

/-! ### What a call does to the clients -/

/-- An update changes the client if it is adopted or proves a conflict. -/
def Changes (result : Except ClientError UpdateOutcome) : Prop :=
  (∃ height root, result = .ok (.updated height root)) ∨
    ∃ height, result = .error (.conflictingQuorum height)

/-- Why a call is refused. -/
inductive Refusal (r : Registry) (clients : Clients) : Call → ClientError → Prop
  /-- The caller lacks the privilege. -/
  | unauthorized {call : Call} (denied : ¬ r.Allows call) :
      Refusal r clients call (.unauthorized call.sender call.privilege)
  /-- The bytes are no message. -/
  | undecodable {call : Call} {cause : ClientError} (allowed : r.Allows call)
      (failed : r.decodes call = .error cause) : Refusal r clients call cause
  /-- There is no such client. -/
  | unknown {call : Call} {id : String} (allowed : r.Allows call)
      (decoded : r.decodes call = .ok ()) (addressed : call.addressee = some id)
      (free : clients.get? id = none) : Refusal r clients call (.clientNotFound id)
  /-- There is such a client already. -/
  | taken {sender : String} {bytes : Bytes} {message : CreateClient} {c : Client}
      (allowed : r.Allows (.createClient sender bytes))
      (decoded : r.decode CreateClient.wire bytes = .ok message)
      (known : clients.get? message.state.clientId = some c) :
      Refusal r clients (.createClient sender bytes) (.clientAlreadyExists message.state.clientId)
  /-- A new client is frozen. -/
  | frozen {sender : String} {bytes : Bytes} {message : CreateClient}
      (allowed : r.Allows (.createClient sender bytes))
      (decoded : r.decode CreateClient.wire bytes = .ok message)
      (free : clients.get? message.state.clientId = none) (frozen : message.state.isFrozen) :
      Refusal r clients (.createClient sender bytes) (.invalidClientState .frozenAtCreation)
  /-- A client cannot be created from the message. -/
  | invalid {sender : String} {bytes : Bytes} {message : CreateClient} {cause : ClientStateError}
      (allowed : r.Allows (.createClient sender bytes))
      (decoded : r.decode CreateClient.wire bytes = .ok message)
      (free : clients.get? message.state.clientId = none) (active : message.state.isFrozen = false)
      (failed : Client.create message.state message.initial = .error cause) :
      Refusal r clients (.createClient sender bytes) (.invalidClientState cause)
  /-- The client refuses the attestors. -/
  | attestors {sender id : String} {bytes : Bytes} {message : UpdateAttestors} {c : Client}
      {cause : ClientError} (allowed : r.Allows (.updateAttestors sender id bytes))
      (decoded : r.decode UpdateAttestors.wire bytes = .ok message)
      (known : clients.get? id = some c)
      (failed : c.updateAttestors message.attestors message.policy = .error cause) :
      Refusal r clients (.updateAttestors sender id bytes) cause
  /-- The client refuses the substitute. -/
  | substitute {sender id : String} {bytes : Bytes} {substitute : ClientState} {c : Client}
      {cause : ClientError} (allowed : r.Allows (.recoverClient sender id bytes))
      (decoded : r.decode ClientState.wire bytes = .ok substitute)
      (known : clients.get? id = some c) (failed : c.recover substitute = .error cause) :
      Refusal r clients (.recoverClient sender id bytes) cause

/-- What a call does to a registry and to the map of its clients. -/
inductive Step (recover : Recovery) (r : Registry) (clients : Clients) :
    Call → Registry × Except ClientError Answer → Clients → Prop
  /-- Other submitters are nothing to the clients. -/
  | restricted {sender : String} {submitters : List String}
      (allowed : r.Allows (.setSubmitters sender submitters)) :
      Step recover r clients (.setSubmitters sender submitters) ({ r with submitters }, .ok .done)
        clients
  /-- A new client is what is made of its message, under an id that was free. -/
  | created {sender : String} {bytes : Bytes} {message : CreateClient} {c : Client}
      (allowed : r.Allows (.createClient sender bytes))
      (decoded : r.decode CreateClient.wire bytes = .ok message)
      (free : clients.get? message.state.clientId = none) (active : message.state.isFrozen = false)
      (new : Client.create message.state message.initial = .ok c) :
      Step recover r clients (.createClient sender bytes)
        (r.save c, .ok (.created message.state.clientId)) (clients.insert message.state.clientId c)
  /-- An update that is adopted or that proves a conflict changes the client. -/
  | updated {sender id : String} {bytes : Bytes} {batch : List Claim} {c : Client}
      (allowed : r.Allows (.updateClient sender id bytes))
      (decoded : r.decode (WireFormat.list Claim.wire) bytes = .ok batch)
      (known : clients.get? id = some c) (changes : Changes (c.update recover batch).2) :
      Step recover r clients (.updateClient sender id bytes)
        (r.save (c.update recover batch).1, (c.update recover batch).2.map .updated)
        (clients.insert id (c.update recover batch).1)
  /-- Any other update changes nothing. -/
  | kept {sender id : String} {bytes : Bytes} {batch : List Claim} {c : Client}
      (allowed : r.Allows (.updateClient sender id bytes))
      (decoded : r.decode (WireFormat.list Claim.wire) bytes = .ok batch)
      (known : clients.get? id = some c) (quiet : ¬ Changes (c.update recover batch).2) :
      Step recover r clients (.updateClient sender id bytes)
        (r, (c.update recover batch).2.map .updated) clients
  /-- A client gets other attestors. -/
  | replaced {sender id : String} {bytes : Bytes} {message : UpdateAttestors} {c c' : Client}
      (allowed : r.Allows (.updateAttestors sender id bytes))
      (decoded : r.decode UpdateAttestors.wire bytes = .ok message)
      (known : clients.get? id = some c)
      (update : c.updateAttestors message.attestors message.policy = .ok c') :
      Step recover r clients (.updateAttestors sender id bytes) (r.save c', .ok .done)
        (clients.insert id c')
  /-- A client is recovered. -/
  | recovered {sender id : String} {bytes : Bytes} {substitute : ClientState} {c c' : Client}
      (allowed : r.Allows (.recoverClient sender id bytes))
      (decoded : r.decode ClientState.wire bytes = .ok substitute)
      (known : clients.get? id = some c) (recovery : c.recover substitute = .ok c') :
      Step recover r clients (.recoverClient sender id bytes) (r.save c', .ok .done)
        (clients.insert id c')
  /-- A refused call changes nothing. -/
  | refused {call : Call} {cause : ClientError} (refusal : Refusal r clients call cause) :
      Step recover r clients call (r, .error cause) clients

/-! ### Calls that are refused before they reach a client -/

section

variable {recover : Recovery} {r : Registry} {id : String} {call : Call}

theorem ensureAuthority_of_eq (sender : String) (privilege : Privilege)
    (h : sender = r.authority) : r.ensureAuthority sender privilege = .ok () :=
  if_pos h

theorem ensureAuthority_of_ne (sender : String) (privilege : Privilege)
    (h : sender ≠ r.authority) :
    r.ensureAuthority sender privilege = .error (.unauthorized sender privilege) :=
  if_neg h

/-- A caller without the privilege is refused, whatever the call brings, and nothing changes. -/
theorem call_of_denied (hdenied : ¬ r.Allows call) :
    r.call recover call = (r, .error (.unauthorized call.sender call.privilege)) := by
  cases call with
  | setSubmitters sender submitters =>
    rw [Registry.call, setSubmitters, ensureAuthority_of_ne sender _ hdenied]
    rfl
  | createClient sender bytes =>
    rw [Registry.call, createClient, ensureAuthority_of_ne sender _ hdenied]
    rfl
  | updateClient sender id bytes =>
    have hsubmit : r.maySubmit sender = false := Bool.eq_false_iff.2 hdenied
    rw [Registry.call, updateClient, prepareUpdate, hsubmit]
    rfl
  | updateAttestors sender id bytes =>
    rw [Registry.call, updateAttestors, ensureAuthority_of_ne sender _ hdenied]
    rfl
  | recoverClient sender id bytes =>
    rw [Registry.call, recoverClient, ensureAuthority_of_ne sender _ hdenied]
    rfl

/-- Bytes that are no message are refused with the cause of the decoder, and nothing changes. -/
theorem call_of_undecodable (hallowed : r.Allows call) {cause : ClientError}
    (hfailed : r.decodes call = .error cause) : r.call recover call = (r, .error cause) := by
  cases call with
  | setSubmitters sender submitters => contradiction
  | createClient sender bytes =>
    rw [Registry.call, createClient, ensureAuthority_of_eq sender _ hallowed, map_eq_error hfailed]
    rfl
  | updateClient sender id bytes =>
    rw [Registry.call, updateClient, prepareUpdate, map_eq_error hfailed, hallowed]
    rfl
  | updateAttestors sender id bytes =>
    rw [Registry.call, updateAttestors, ensureAuthority_of_eq sender _ hallowed,
      map_eq_error hfailed]
    rfl
  | recoverClient sender id bytes =>
    rw [Registry.call, recoverClient, ensureAuthority_of_eq sender _ hallowed, map_eq_error hfailed]
    rfl

/-- A call for a client that cannot be loaded is refused with the cause, and nothing changes. -/
theorem call_of_unknown (hallowed : r.Allows call) (hdecoded : r.decodes call = .ok ())
    (haddressed : call.addressee = some id) {cause : ClientError}
    (hload : r.load id = .error cause) : r.call recover call = (r, .error cause) := by
  cases call with
  | setSubmitters sender submitters => contradiction
  | createClient sender bytes => contradiction
  | updateClient sender id' bytes =>
    obtain rfl := Option.some.inj haddressed
    obtain ⟨batch, hbatch⟩ := map_eq_ok hdecoded
    rw [Registry.call, updateClient, prepareUpdate, hbatch, hallowed, hload]
    rfl
  | updateAttestors sender id' bytes =>
    obtain rfl := Option.some.inj haddressed
    obtain ⟨message, hmessage⟩ := map_eq_ok hdecoded
    rw [Registry.call, updateAttestors, ensureAuthority_of_eq sender _ hallowed, hmessage, hload]
    rfl
  | recoverClient sender id' bytes =>
    obtain rfl := Option.some.inj haddressed
    obtain ⟨substitute, hsubstitute⟩ := map_eq_ok hdecoded
    rw [Registry.call, recoverClient, ensureAuthority_of_eq sender _ hallowed, hsubstitute, hload]
    rfl

/-! ### Updates that reach a client -/

variable {sender : String} {bytes : Bytes} {batch : List Claim} {c : Client}

/-- A client that an update changes is saved, also when the update is a conflict. -/
theorem updateClient_of_changes (hprepare : r.prepareUpdate sender id bytes = .ok (batch, c))
    (hchanges : Changes (c.update recover batch).2) :
    r.updateClient recover sender id bytes =
      (r.save (c.update recover batch).1, (c.update recover batch).2) := by
  rw [updateClient, hprepare]
  dsimp only
  generalize c.update recover batch = out at hchanges ⊢
  obtain ⟨c', result⟩ := out
  obtain ⟨height, root, rfl⟩ | ⟨height, rfl⟩ := hchanges
  · rfl
  · rfl

/-- A client that an update does not change is not written. -/
theorem updateClient_of_not_changes (hprepare : r.prepareUpdate sender id bytes = .ok (batch, c))
    (hquiet : ¬ Changes (c.update recover batch).2) :
    r.updateClient recover sender id bytes = (r, (c.update recover batch).2) := by
  rw [updateClient, hprepare]
  dsimp only
  generalize c.update recover batch = out at hquiet ⊢
  obtain ⟨c', result⟩ := out
  dsimp only at hquiet ⊢
  split
  · exact absurd (.inl ⟨_, _, rfl⟩) hquiet
  · exact absurd (.inr ⟨_, rfl⟩) hquiet
  · rfl

end

/-! ### Runs -/

/-- The registry after a sequence of calls. -/
def afterCalls (recover : Recovery) (r : Registry) (calls : List Call) : Registry :=
  calls.foldl (fun r call => (r.call recover call).1) r

end Registry

end Attestation
