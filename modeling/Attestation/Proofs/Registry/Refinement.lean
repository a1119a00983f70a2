import Attestation.Proofs.Client.Invariant
import Attestation.Proofs.Client.Safety
import Attestation.Proofs.Registry.Calls
import Attestation.Proofs.Registry.Storage

/-!
# The registry is a map of clients

Behind its bytes a registry holds a map from ids to clients (`Holds`). Each call does to that map
what `Step` allows (`step_call`) and leaves a registry that holds the outcome (`Step.holds`), so a
registry that was empty holds a map after any calls, whoever makes them and whatever they bring.

Two properties of clients carry this: roots stand under their own heights, because loading goes by
the heights that the values tell, and ids hold no separator, because saving deletes what stands
under the stem of an id. In the binary layout lengths have to fit as well, which they do because
everything that is stored was decoded before.
-/

namespace Attestation

/-! ### Clients that can be written -/

theorem ClientState.Short.freeze {s : ClientState} (h : s.Short) (height : UInt64) :
    (s.freeze height).Short := by
  rw [ClientState.freeze]
  split
  · exact h
  · exact ⟨h.clientId, h.chainId, h.attestors⟩

namespace Client

variable {recover : Recovery} {c : Client} {batch : List Claim}

private theorem WellFormed.noSeparator (h : c.WellFormed) : '/' ∉ c.state.clientId.toList :=
  (ClientState.validate_eq_ok_iff.1 h.valid).2.1

private theorem clientId_withVoters {attestors : AttestorSet} {policy : QuorumPolicy} (c : Client) :
    (c.withVoters attestors policy).state.clientId = c.state.clientId := rfl

theorem UpdateStep.clientId_eq {out : Client × Except ClientError UpdateOutcome}
    (h : UpdateStep recover c batch out) : out.1.state.clientId = c.state.clientId := by
  refine h.preserves (motive := fun c' => c'.state.clientId = c.state.clientId) rfl
    (fun height => ?_) fun _ _ => rfl
  rw [Client.freeze, ClientState.freeze]
  split <;> rfl

/-- A batch leaves a client whose lengths fit. -/
theorem UpdateStep.short {out : Client × Except ClientError UpdateOutcome}
    (h : UpdateStep recover c batch out) (hc : c.state.Short) : out.1.state.Short := by
  refine h.preserves (motive := fun c' => c'.state.Short) hc hc.freeze fun u _ => ?_
  exact ⟨hc.clientId, hc.chainId, hc.attestors⟩

end Client

namespace Registry

open Store

variable {recover : Recovery} {r : Registry} {clients clients' : Clients} {c : Client} {id : String}
  {call : Call} {out : Registry × Except ClientError Answer}

/-! ### Held clients -/

/-- The clients that a registry holds are those of a map. -/
structure Holds (r : Registry) (clients : Clients) : Prop where
  stores {id : String} {c : Client} (h : clients.get? id = some c) : r.Stores id c
  clientId {id : String} {c : Client} (h : clients.get? id = some c) : c.state.clientId = id
  wellFormed {id : String} {c : Client} (h : clients.get? id = some c) : c.WellFormed
  short {id : String} {c : Client} (h : clients.get? id = some c) :
    r.codec = .binary → c.state.Short
  absent {id : String} (h : clients.get? id = none) : r.store.get? (stateKey id) = none

/-- A new registry holds no client. -/
private theorem holds_new {codec : Codec} {authority : String} :
    Holds (new .empty codec authority) .empty where
  stores h := nomatch h
  clientId h := nomatch h
  wellFormed h := nomatch h
  short h := nomatch h
  absent _ := rfl

/-- A registry loads what the map that it holds has under the id. -/
theorem Holds.load (h : Holds r clients) (id : String) : r.load id = clients.load id := by
  rw [Clients.load]
  cases hget : clients.get? id with
  | none => exact load_eq_error (h.absent hget)
  | some c => exact (h.stores hget).load (h.wellFormed hget).ownHeight (h.short hget)

private theorem Holds.load_eq (h : Holds r clients) (hget : clients.get? id = some c) :
    r.load id = .ok c := by
  rw [h.load, Clients.load, hget]

private theorem Holds.withSubmitters (h : Holds r clients) (submitters : List String) :
    Holds { r with submitters } clients where
  stores hget :=
    let hstores := h.stores hget
    ⟨hstores.state, hstores.history, hstores.only⟩
  clientId := h.clientId
  wellFormed := h.wellFormed
  short := h.short
  absent := h.absent

/-- Saving a well-formed client puts it into the map. -/
theorem Holds.save (h : Holds r clients) (hid : c.state.clientId = id) (hwell : c.WellFormed)
    (hshort : r.codec = .binary → c.state.Short) : Holds (r.save c) (clients.insert id c) := by
  subst hid
  have hcases : ∀ {id' c'}, (clients.insert c.state.clientId c).get? id' = some c' →
      id' = c.state.clientId ∧ c' = c ∨ id' ≠ c.state.clientId ∧ clients.get? id' = some c' := by
    intro id' c' hget
    rw [OrderedMap.get?_insert] at hget
    split_ifs at hget with heq
    · exact .inl ⟨heq, (Option.some.inj hget).symm⟩
    · exact .inr ⟨heq, hget⟩
  -- each part is about the client that was saved or about one that was there before
  refine ⟨fun hget => ?_, fun hget => ?_, fun hget => ?_, fun hget => ?_, fun hget => ?_⟩
  · rcases hcases hget with ⟨rfl, rfl⟩ | ⟨hne, hold⟩
    · exact stores_save hwell.noSeparator
    · have hsep := (h.wellFormed hold).noSeparator
      rw [h.clientId hold] at hsep
      exact (h.stores hold).save_of_ne hsep hwell.noSeparator hne
  · rcases hcases hget with ⟨rfl, rfl⟩ | ⟨-, hold⟩
    · rfl
    · exact h.clientId hold
  · rcases hcases hget with ⟨-, rfl⟩ | ⟨-, hold⟩
    · exact hwell
    · exact h.wellFormed hold
  · rcases hcases hget with ⟨-, rfl⟩ | ⟨-, hold⟩
    · exact hshort
    · exact h.short hold
  · rw [OrderedMap.get?_insert] at hget
    split_ifs at hget with heq
    exact get?_save_eq_none (h.absent hget) heq

/-! ### Steps -/

/-- After a step the registry holds the clients that the step ends with. -/
theorem Step.holds (hstep : Step recover r clients call out clients') (h : Holds r clients) :
    Holds out.1 clients' := by
  cases hstep with
  | restricted allowed => exact h.withSubmitters _
  | @created _ _ message c allowed decoded free active new =>
    have hstate : c.state = message.state := by
      obtain ⟨-, ⟨-, -, rfl⟩ | ⟨first, -, -, -, rfl⟩⟩ := Client.create_eq_ok_iff.1 new <;> rfl
    refine h.save (congrArg _ hstate) (Client.wellFormed_create new) ?_
    rw [hstate]
    exact short_of_decode CreateClient.binary decoded
  | @updated _ _ _ batch c allowed decoded known changes =>
    -- an update leaves id, chain and attestors alone, so the client fits the layout as before
    have hupdate := Client.updateStep_update recover c batch
    refine h.save (hupdate.clientId_eq.trans (h.clientId known)) ?_ fun hcodec => ?_
    · exact hupdate.wellFormed (h.wellFormed known)
    · exact hupdate.short (h.short known hcodec)
  | kept allowed decoded known quiet => exact h
  | @replaced _ _ _ message c c' allowed decoded known update =>
    obtain ⟨hvalid, rfl⟩ := Client.updateAttestors_eq_ok_iff.1 update
    have hwell := (h.wellFormed known).withVoters hvalid
    have hid : (c.withVoters message.attestors message.policy).state.clientId = _ :=
      c.clientId_withVoters.trans (h.clientId known)
    refine h.save hid hwell fun hcodec => ?_
    -- the new attestors fit the layout because they were read from it
    have hold := h.short known hcodec
    exact ⟨hold.clientId, hold.chainId, short_of_decode UpdateAttestors.binary decoded hcodec⟩
  | recovered allowed decoded known recovery =>
    obtain ⟨-, hvalid, ⟨-, hid, -⟩, rfl⟩ := Client.recover_eq_ok_iff.1 recovery
    exact h.save (hid.trans (h.clientId known)) ((h.wellFormed known).restart hvalid)
      (short_of_decode ClientState.binary decoded)
  | refused refusal => exact h

/-- With leave and a message that decodes, a client is created, or the reason why not is one of the
refusals. -/
theorem step_createClient {sender : String} {bytes : Bytes} {message : CreateClient}
    (h : Holds r clients) (hallowed : r.Allows (.createClient sender bytes))
    (hdecode : r.decode CreateClient.wire bytes = .ok message) :
    ∃ clients', Step recover r clients (.createClient sender bytes)
      (r.call recover (.createClient sender bytes)) clients' := by
  rw [Registry.call, createClient, ensureAuthority_of_eq sender _ hallowed, ok_bind, hdecode,
    ok_bind]
  dsimp only
  cases hget : clients.get? message.state.clientId with
  | some c =>
    rw [(h.stores hget).state]
    exact ⟨clients, .refused (.taken hallowed hdecode hget)⟩
  | none =>
    rw [h.absent hget]
    cases hfrozen : message.state.isFrozen with
    | true => exact ⟨clients, .refused (.frozen hallowed hdecode hget hfrozen)⟩
    | false =>
      cases hcreate : Client.create message.state message.initial with
      | error cause => exact ⟨clients, .refused (.invalid hallowed hdecode hget hfrozen hcreate)⟩
      | ok c => exact ⟨_, .created hallowed hdecode hget hfrozen hcreate⟩

/-- With leave, a batch that decodes and a client, the update is a step that changes the client or
keeps it. -/
theorem step_updateClient {sender : String} {bytes : Bytes} {batch : List Claim}
    (h : Holds r clients) (hallowed : r.Allows (.updateClient sender id bytes))
    (hdecode : r.decode (WireFormat.list Claim.wire) bytes = .ok batch)
    (hget : clients.get? id = some c) :
    ∃ clients', Step recover r clients (.updateClient sender id bytes)
      (r.call recover (.updateClient sender id bytes)) clients' := by
  have hprepare : r.prepareUpdate sender id bytes = .ok (batch, c) := by
    rw [prepareUpdate, hallowed, hdecode, h.load_eq hget]
    rfl
  rw [Registry.call]
  by_cases hchanges : Changes (c.update recover batch).2
  · rw [updateClient_of_changes hprepare hchanges]
    exact ⟨_, .updated hallowed hdecode hget hchanges⟩
  · rw [updateClient_of_not_changes hprepare hchanges]
    exact ⟨_, .kept hallowed hdecode hget hchanges⟩

theorem step_updateAttestors {sender : String} {bytes : Bytes} {message : UpdateAttestors}
    (h : Holds r clients) (hallowed : r.Allows (.updateAttestors sender id bytes))
    (hdecode : r.decode UpdateAttestors.wire bytes = .ok message)
    (hget : clients.get? id = some c) :
    ∃ clients', Step recover r clients (.updateAttestors sender id bytes)
      (r.call recover (.updateAttestors sender id bytes)) clients' := by
  rw [Registry.call, updateAttestors, ensureAuthority_of_eq sender _ hallowed, ok_bind, hdecode,
    ok_bind, h.load_eq hget, ok_bind]
  cases hupdate : c.updateAttestors message.attestors message.policy with
  | error cause => exact ⟨clients, .refused (.attestors hallowed hdecode hget hupdate)⟩
  | ok c' => exact ⟨_, .replaced hallowed hdecode hget hupdate⟩

theorem step_recoverClient {sender : String} {bytes : Bytes} {substitute : ClientState}
    (h : Holds r clients) (hallowed : r.Allows (.recoverClient sender id bytes))
    (hdecode : r.decode ClientState.wire bytes = .ok substitute)
    (hget : clients.get? id = some c) :
    ∃ clients', Step recover r clients (.recoverClient sender id bytes)
      (r.call recover (.recoverClient sender id bytes)) clients' := by
  rw [Registry.call, recoverClient, ensureAuthority_of_eq sender _ hallowed, ok_bind, hdecode,
    ok_bind, h.load_eq hget, ok_bind]
  cases hrecovery : c.recover substitute with
  | error cause => exact ⟨clients, .refused (.substitute hallowed hdecode hget hrecovery)⟩
  | ok c' => exact ⟨_, .recovered hallowed hdecode hget hrecovery⟩

/-- A call makes a step. -/
theorem step_call (recover : Recovery) (h : Holds r clients) (call : Call) :
    ∃ clients', Step recover r clients call (r.call recover call) clients' := by
  -- the causes that do not depend on the client come first, in the order of the checks
  by_cases hallowed : r.Allows call
  case neg => exact call_of_denied hallowed ▸ ⟨clients, .refused (.unauthorized hallowed)⟩
  cases hdecodes : r.decodes call with
  | error cause =>
    exact call_of_undecodable hallowed hdecodes ▸
      ⟨clients, .refused (.undecodable hallowed hdecodes)⟩
  | ok decoded =>
    by_cases hunknown : ∃ id, call.addressee = some id ∧ clients.get? id = none
    · obtain ⟨id, haddressed, hget⟩ := hunknown
      have hload : r.load id = .error (.clientNotFound id) := load_eq_error (h.absent hget)
      exact call_of_unknown hallowed hdecodes haddressed hload ▸
        ⟨clients, .refused (.unknown hallowed hdecodes haddressed hget)⟩
    have hknown : ∀ id, call.addressee = some id → ∃ c, clients.get? id = some c :=
      fun id haddressed => Option.ne_none_iff_exists'.1 fun hget => hunknown ⟨id, haddressed, hget⟩
    cases call with
    | setSubmitters sender submitters =>
      have hcall : r.call recover (.setSubmitters sender submitters) =
          ({ r with submitters }, .ok .done) := by
        rw [Registry.call, setSubmitters, ensureAuthority_of_eq sender _ hallowed]
        rfl
      exact hcall ▸ ⟨clients, .restricted hallowed⟩
    | createClient sender bytes =>
      obtain ⟨message, hmessage⟩ := map_eq_ok hdecodes
      exact step_createClient h hallowed hmessage
    | updateClient sender id bytes =>
      obtain ⟨batch, hbatch⟩ := map_eq_ok hdecodes
      obtain ⟨c, hc⟩ := hknown id rfl
      exact step_updateClient h hallowed hbatch hc
    | updateAttestors sender id bytes =>
      obtain ⟨message, hmessage⟩ := map_eq_ok hdecodes
      obtain ⟨c, hc⟩ := hknown id rfl
      exact step_updateAttestors h hallowed hmessage hc
    | recoverClient sender id bytes =>
      obtain ⟨substitute, hsubstitute⟩ := map_eq_ok hdecodes
      obtain ⟨c, hc⟩ := hknown id rfl
      exact step_recoverClient h hallowed hsubstitute hc

/-! ### Runs -/

/-- An answer after which nothing has changed: a failure that is no conflict, or a confirmation of
what is trusted. -/
def Quiet (answer : Except ClientError Answer) : Prop :=
  (∃ cause, answer = .error cause ∧ ∀ height, cause ≠ .conflictingQuorum height) ∨
    answer = .ok (.updated .unchanged)

/-- An update that changes its client is not answered quietly. -/
private theorem Changes.not_quiet {result : Except ClientError UpdateOutcome} (h : Changes result) :
    ¬ Quiet (result.map .updated) := by
  rintro (⟨cause, hcause, hother⟩ | hunchanged)
  · obtain ⟨height, root, rfl⟩ | ⟨height, rfl⟩ := h
    · contradiction
    · exact hother height (Except.error.inj hcause).symm
  · obtain ⟨height, root, rfl⟩ | ⟨height, rfl⟩ := h
    · exact nomatch Except.ok.inj hunchanged
    · contradiction

/-- After a quiet answer the registry is as it was. -/
theorem Step.eq_of_quiet (hstep : Step recover r clients call out clients') (h : Quiet out.2) :
    out.1 = r := by
  have hdone : ¬ Quiet (.ok .done) := by simp [Quiet]
  cases hstep with
  | restricted allowed => exact absurd h hdone
  | created allowed decoded free active new => simp [Quiet] at h
  | updated allowed decoded known changes => exact absurd h changes.not_quiet
  | kept allowed decoded known quiet => rfl
  | replaced allowed decoded known update => exact absurd h hdone
  | recovered allowed decoded known recovery => exact absurd h hdone
  | refused refusal => rfl

theorem Step.same (hstep : Step recover r clients call out clients') :
    out.1.codec = r.codec ∧ out.1.authority = r.authority := by
  cases hstep <;> exact ⟨rfl, rfl⟩

/-- A registry that holds a map of clients holds one after any calls. -/
theorem holds_afterCalls {calls : List Call} (h : Holds r clients) :
    (∃ clients', Holds (r.afterCalls recover calls) clients') ∧
      (r.afterCalls recover calls).codec = r.codec ∧
      (r.afterCalls recover calls).authority = r.authority := by
  induction calls generalizing r clients with
  | nil => exact ⟨⟨clients, h⟩, rfl, rfl⟩
  | cons call calls ih =>
    obtain ⟨clients', hstep⟩ := step_call recover h call
    obtain ⟨hholds, hcodec, hauthority⟩ := ih (hstep.holds h)
    exact ⟨hholds, hcodec.trans hstep.same.1, hauthority.trans hstep.same.2⟩

/-- **The registry refines a map of clients.** Whatever calls are made to a registry that starts
empty, with either codec, it is at each point a map of clients: loading an id gives the client of
the map, or says that there is none. The next call makes one of the steps of `Step`, which name the
map afterwards, and the registry is that map again. A call that fails without a conflict, or that
confirms what is trusted, leaves the registry with all its bytes as it was. -/
theorem refines_clients (recover : Recovery) (codec : Codec) (authority : String)
    (calls : List Call) :
    let r := (new .empty codec authority).afterCalls recover calls
    (r.codec = codec ∧ r.authority = authority) ∧
    ∃ clients : Clients, (∀ id, r.load id = clients.load id) ∧
      ∀ call, ∃ clients' : Clients, Step recover r clients call (r.call recover call) clients' ∧
        (∀ id, (r.call recover call).1.load id = clients'.load id) ∧
        (Quiet (r.call recover call).2 → (r.call recover call).1 = r) := by
  intro r
  obtain ⟨⟨clients, h⟩, hsame⟩ := @holds_afterCalls recover _ _ calls
    (@holds_new codec authority)
  refine ⟨hsame, clients, h.load, fun call => ?_⟩
  obtain ⟨clients', hstep⟩ := step_call recover h call
  exact ⟨clients', hstep, (hstep.holds h).load, hstep.eq_of_quiet⟩

section

open Client.ThreeVoters

/-- A state under which Ann is a quorum by herself. -/
def soleVoter : ClientState :=
  { start with
    attestors := ⟨[⟨"ann", .replicate 20 1, 1⟩], by decide, by decide, by decide, by decide⟩
    policy := .count 1 }

/-- A client is created, adopts what Ann signs, is frozen when she signs two roots, and is recovered
with one of them. -/
def life (codec : Codec) : List Call :=
  let submit (batch : List Claim) : Call :=
    .updateClient "relayer" "client" (codec.encode (WireFormat.list Claim.wire) batch)
  [.createClient "gov" (codec.encode CreateClient.wire ⟨soleVoter, some first⟩),
    submit [claim "ann" 1 5 (trueRoot 5)],
    submit [claim "ann" 1 9 (trueRoot 9), claim "ann" 1 9 (trueRoot 0)],
    .recoverClient "gov" "client" (codec.encode ClientState.wire
      { soleVoter with latestHeight := 9, latestRoot := trueRoot 9 })]

/-- What is loaded before these calls and after each of them: the status and the heights. -/
example : (List.range 5).map (fun n =>
    (((new .empty .binary "gov").afterCalls readSigner ((life .binary).take n)).load "client").map
      fun c => (c.state.status, c.history.keys)) =
    [.error (.clientNotFound "client"), .ok (.active, [0]), .ok (.active, [0, 5]),
      .ok (.frozen 9, [0, 5]), .ok (.active, [0, 5, 9])] := by
  decide +kernel

end

end Registry

end Attestation
