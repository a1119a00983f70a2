import Attestation.Proofs.Client.Safety

/-!
# One key, one vote

Neither the id that a claim names nor the bytes of its signature are signed, so a key can put its
snapshots under any id and find other signatures for them. What counts is the address that a claim
recovers to: the addresses of a set are unique, so usable claims that recover to one address name
one attestor (`attestorId_eq_of_signer_eq`), and the supporters of a root are the owners of the
addresses behind its claims (`supporters_eq_owners`). However claims are relabelled, repeated or
signed anew, the keys behind them weigh no more than what is registered for their owners.
-/

namespace Attestation

/-! ### Owners of addresses -/

namespace AttestorSet

variable {set : AttestorSet} {a b : Attestor}

/-- The attestors whose address is one of some addresses. -/
def owners (set : AttestorSet) (addresses : List Address) : List Attestor :=
  set.members.filter (·.address ∈ addresses)

private theorem owners_subset (set : AttestorSet) (addresses : List Address) :
    set.owners addresses ⊆ set.members :=
  List.filter_sublist.subset

/-- More addresses have more owners. -/
theorem owners_sublist {addresses addresses' : List Address} (h : addresses ⊆ addresses') :
    (set.owners addresses).Sublist (set.owners addresses') :=
  List.monotone_filter_right _ fun _ ha => decide_eq_true (h (of_decide_eq_true ha))

/-- An address has one owner. -/
theorem eq_of_address_eq (ha : a ∈ set.members) (hb : b ∈ set.members)
    (h : a.address = b.address) : a = b :=
  List.inj_on_of_nodup_map set.addresses_nodup ha hb h

end AttestorSet

/-- The registered weight of a group of attestors in the natural numbers. -/
def registeredWeight (group : List Attestor) : Nat := (group.map (·.weight.toNat)).sum

/-- No vote weighs more than what is registered: weights are positive, and where attestors are
counted each of them weighs one. -/
theorem QuorumPolicy.exactWeight_le_registeredWeight (p : QuorumPolicy) {set : AttestorSet}
    {group : List Attestor} (h : group ⊆ set.members) :
    p.exactWeight group ≤ registeredWeight group := by
  refine List.sum_le_sum fun a ha => ?_
  have hpos : a.weight.toNat ≠ 0 := fun hzero =>
    set.weight_ne_zero a (h ha) (UInt64.toNat_inj.1 (hzero.trans UInt64.toNat_zero.symm))
  cases p with
  | count threshold => exact Nat.one_le_iff_ne_zero.2 hpos
  | weighted threshold => exact Nat.le_refl _

/-! ### Signers -/

variable {recover : Recovery} {s : ClientState} {batch relabelled : List Claim} {c d : Claim}

/-- The signer of a claim is the address that is recovered from the signed bytes. -/
private theorem Claim.signer_eq_ok_iff {address : Address} :
    c.signer recover = .ok address ↔
      ∃ message, c.snapshot.signable? = some message ∧
        recover message c.signature = .ok address := by
  rw [← isSignedBy_iff, isSignedBy]
  cases c.signer recover <;> simp

/-- A claim is usable if it is for the client's chain and its signer is the attestor it names. -/
theorem Claim.usable_iff_signer :
    c.Usable recover s ↔ c.snapshot.chainId = s.chainId ∧
      ∃ a ∈ s.attestors.members, a.id = c.attestorId ∧ c.signer recover = .ok a.address := by
  simp only [Usable, signer_eq_ok_iff]

/-- Usable claims of one signer name one attestor. -/
theorem attestorId_eq_of_signer_eq (hc : c.Usable recover s) (hd : d.Usable recover s)
    (h : c.signer recover = d.signer recover) : c.attestorId = d.attestorId := by
  obtain ⟨-, a, ha, haid, hasigner⟩ := Claim.usable_iff_signer.1 hc
  obtain ⟨-, b, hb, hbid, hbsigner⟩ := Claim.usable_iff_signer.1 hd
  have haddress : a.address = b.address := Except.ok.inj (hasigner.symm.trans (h.trans hbsigner))
  calc c.attestorId = a.id := haid.symm
    _ = b.id := by rw [AttestorSet.eq_of_address_eq ha hb haddress]
    _ = d.attestorId := hbid

/-- The addresses that claims recover to, each once. -/
def signers (recover : Recovery) (claims : List Claim) : List Address :=
  sortedSet (claims.filterMap fun c => (c.signer recover).toOption)

private theorem mem_signers {claims : List Claim} {address : Address} :
    address ∈ signers recover claims ↔ ∃ c ∈ claims, c.signer recover = .ok address := by
  rw [signers, mem_sortedSet, List.mem_filterMap]
  refine exists_congr fun c => and_congr_right fun _ => ?_
  cases c.signer recover <;> simp [Except.toOption]

private theorem nodup_signers (recover : Recovery) (claims : List Claim) :
    (signers recover claims).Nodup :=
  Increasing.nodup (pairwise_sortedSet _)

/-! ### Supporters and signers -/

section Support

variable {height : UInt64} {root : Digest}

/-- The address of a member is among the signers for a root exactly if a claim under the id supports
it. -/
private theorem address_mem_signers_iff {a : Attestor} (ha : a ∈ s.attestors.members) :
    a.address ∈ signers recover (supporting recover s batch height root) ↔
      ∃ c ∈ supporting recover s batch height root, c.attestorId = a.id := by
  rw [mem_signers]
  refine exists_congr fun c => and_congr_right fun hc => ?_
  obtain ⟨-, husable, -⟩ := mem_supporting.1 hc
  obtain ⟨-, b, hb, hid, hsigner⟩ := Claim.usable_iff_signer.1 husable
  rw [hsigner, ← hid, Except.ok.injEq]
  constructor
  · intro h
    rw [AttestorSet.eq_of_address_eq hb ha h]
  · intro h
    rw [AttestorSet.eq_of_id_eq hb ha h]

/-- The supporters of a root are the owners of the addresses behind its claims. -/
theorem supporters_eq_owners :
    supporters recover s batch height root =
      s.attestors.owners (signers recover (supporting recover s batch height root)) := by
  refine List.filter_congr fun a ha => ?_
  rw [decide_eq_decide, address_mem_signers_iff ha]

/-- Each address behind the claims for a root is that of one supporter. -/
theorem signers_perm_addresses :
    (signers recover (supporting recover s batch height root)).Perm
      ((supporters recover s batch height root).map (·.address)) := by
  have hnodup : ((supporters recover s batch height root).map (·.address)).Nodup :=
    s.attestors.addresses_nodup.sublist (List.filter_sublist.map _)
  refine (List.perm_ext_iff_of_nodup (nodup_signers recover _) hnodup).2 fun address => ?_
  rw [List.mem_map]
  constructor
  · intro h
    obtain ⟨c, hc, hsigner⟩ := mem_signers.1 h
    obtain ⟨-, a, ha, hid, haddress⟩ := Claim.usable_iff_signer.1 (mem_supporting.1 hc).2.1
    exact ⟨a, mem_supporters.2 ⟨ha, c, hc, hid.symm⟩, Except.ok.inj (haddress.symm.trans hsigner)⟩
  · rintro ⟨a, ha, rfl⟩
    obtain ⟨hmem, hclaims⟩ := mem_supporters.1 ha
    exact (address_mem_signers_iff hmem).2 hclaims

end Support

/-! ### Relabelled claims -/

/-- The addresses behind the claims of a batch for a subject, whatever ids the claims name. -/
def signersFor (recover : Recovery) (batch : List Claim) (k : Subject) : List Address :=
  signers recover (batch.filter (·.subject = k))

private theorem mem_signersFor {k : Subject} {address : Address} :
    address ∈ signersFor recover batch k ↔
      ∃ c ∈ batch, c.subject = k ∧ c.signer recover = .ok address := by
  simp only [signersFor, mem_signers, List.mem_filter, decide_eq_true_eq, and_assoc]

/-- A batch is relabelled from another one if each of its claims that has a signer is for the same
subject and of the same signer as a claim there. The ids that are named, the bytes of the signatures
and repetitions do not matter. -/
def Relabels (recover : Recovery) (batch relabelled : List Claim) : Prop :=
  ∀ c ∈ relabelled, (c.signer recover).isOk →
    ∃ d ∈ batch, d.subject = c.subject ∧ d.signer recover = c.signer recover

instance (recover : Recovery) (batch relabelled : List Claim) :
    Decidable (Relabels recover batch relabelled) :=
  inferInstanceAs (Decidable (∀ c ∈ relabelled, _))

/-- Relabelling adds no signer. -/
private theorem Relabels.signersFor_subset (h : Relabels recover batch relabelled) (k : Subject) :
    signersFor recover relabelled k ⊆ signersFor recover batch k := by
  intro address haddress
  obtain ⟨c, hc, rfl, hsigner⟩ := mem_signersFor.1 haddress
  obtain ⟨d, hd, hsubject, hsame⟩ := h c hc (by rw [hsigner]; rfl)
  exact mem_signersFor.2 ⟨d, hd, hsubject, hsame.trans hsigner⟩

/-- Supporting claims are for the subject that their root stands for on the client's chain. -/
private theorem signers_supporting_subset {k : Subject} (hchain : k.chainId = s.chainId) :
    signers recover (supporting recover s batch k.height k.root) ⊆ signersFor recover batch k := by
  intro address haddress
  obtain ⟨c, hc, hsigner⟩ := mem_signers.1 haddress
  obtain ⟨hmem, husable, hheight, hroot⟩ := mem_supporting.1 hc
  refine mem_signersFor.2 ⟨c, hmem, ?_, hsigner⟩
  rw [Claim.subject, husable.1, hheight, hroot, ← hchain]

/-- The votes for a subject weigh no more than the owners of the addresses behind the claims that
they are relabelled from. -/
theorem Relabels.weigh_le (h : Relabels recover batch relabelled) {k : Subject} {votes : Votes}
    (hvotes : (Tally.ofBatch recover s relabelled).freshVotes.get? k = some votes ∨
      (Tally.ofBatch recover s relabelled).staleVotes.get? k = some votes) :
    (s.weigh votes).toNat ≤
      s.policy.exactWeight (s.attestors.owners (signersFor recover batch k)) := by
  -- fresh or stale, the votes are those of the supporting claims
  obtain ⟨hchain, rfl⟩ : k.chainId = s.chainId ∧
      votes = Votes.ofClaims (supporting recover s relabelled k.height k.root) := by
    rw [votes_ofBatch.1, votes_ofBatch.2] at hvotes
    rcases hvotes with hfresh | hstale
    · obtain ⟨⟨hchain, -⟩, -, heq⟩ := get?_votesWhere_eq_some_iff.1 hfresh
      exact ⟨hchain, heq⟩
    · obtain ⟨⟨hchain, -⟩, -, heq⟩ := get?_votesWhere_eq_some_iff.1 hstale
      exact ⟨hchain, heq⟩
  have hkeys : signers recover (supporting recover s relabelled k.height k.root) ⊆
      signersFor recover batch k :=
    fun _ haddress => h.signersFor_subset k (signers_supporting_subset hchain haddress)
  calc (s.weigh (Votes.ofClaims (supporting recover s relabelled k.height k.root))).toNat
      = min (s.policy.exactWeight (supporters recover s relabelled k.height k.root))
          (2 ^ 64 - 1) := by rw [weigh_ofClaims, QuorumPolicy.toNat_weightOfAll]
    _ ≤ s.policy.exactWeight (supporters recover s relabelled k.height k.root) :=
        Nat.min_le_left _ _
    _ ≤ _ := by
        rw [supporters_eq_owners]
        exact s.policy.exactWeight_mono (AttestorSet.owners_sublist hkeys)

/-- **One key, one vote.** Under at most one id is a signed snapshot usable. The claims behind an
accepted update recover to as many addresses as the update names attestors, and the attestors it
names are the owners of these. And however the claims of a batch are relabelled, repeated or signed
anew by the same keys, no group of votes weighs more than the owners of the addresses behind the
claims for its subject, whose exact weight is at most their registered one. -/
theorem one_vote_for_each_key (recover : Recovery) (s : ClientState) :
    (∀ snapshot signature id id', Claim.Usable recover s ⟨snapshot, id, signature⟩ →
      Claim.Usable recover s ⟨snapshot, id', signature⟩ → id = id') ∧
    (∀ batch u, aggregate recover s batch = .ok (.accepted u) →
      (signers recover (supporting recover s batch u.height u.root)).Nodup ∧
      (signers recover (supporting recover s batch u.height u.root)).length =
        u.attestors.length ∧
      u.attestors = (s.attestors.owners
        (signers recover (supporting recover s batch u.height u.root))).map (·.id)) ∧
    (∀ batch relabelled, Relabels recover batch relabelled → ∀ k votes,
      ((Tally.ofBatch recover s relabelled).freshVotes.get? k = some votes ∨
        (Tally.ofBatch recover s relabelled).staleVotes.get? k = some votes) →
      (s.weigh votes).toNat ≤
          s.policy.exactWeight (s.attestors.owners (signersFor recover batch k)) ∧
        s.policy.exactWeight (s.attestors.owners (signersFor recover batch k)) ≤
          registeredWeight (s.attestors.owners (signersFor recover batch k))) := by
  refine ⟨fun snapshot signature id id' h h' => ?_, fun batch u haccepted => ?_,
    fun batch relabelled h k votes hvotes => ?_⟩
  · -- the id plays no part in who signed
    exact attestorId_eq_of_signer_eq h h' rfl
  · have hsupported := ((judged_aggregate recover s batch).accepted_iff.1 haccepted).2.2
    have hlength : (signers recover (supporting recover s batch u.height u.root)).length =
        ((supporters recover s batch u.height u.root).map (·.address)).length :=
      signers_perm_addresses.length_eq
    refine ⟨nodup_signers recover _, ?_, ?_⟩
    · rw [hlength, hsupported.attestors, List.length_map, List.length_map]
    · rw [hsupported.attestors, ← supporters_eq_owners]
  · exact ⟨h.weigh_le hvotes,
      s.policy.exactWeight_le_registeredWeight (AttestorSet.owners_subset _ _)⟩

namespace Client.ThreeVoters

/-- Eve claims a false root. -/
def eveAlone : List Claim := [claim "eve" 3 9 (trueRoot 0)]

/-- Eve repeats her claim, under the ids of the others and with another signature. -/
def masquerade : List Claim :=
  [claim "ann" 3 9 (trueRoot 0), claim "bob" 3 9 (trueRoot 0), claim "eve" 3 9 (trueRoot 0),
    { claim "eve" 3 9 (trueRoot 0) with signature := [3, 1] }]

end Client.ThreeVoters

open Client.ThreeVoters in
/-- Under three ids Eve still weighs what one attestor weighs. -/
theorem one_vote_for_each_key_masquerade :
    Relabels readSigner eveAlone masquerade ∧
    registeredWeight (start.attestors.owners
      (signersFor readSigner eveAlone ⟨"chain", 9, trueRoot 0⟩)) = 1 ∧
    ∃ votes, (Tally.ofBatch readSigner start masquerade).freshVotes.get?
        ⟨"chain", 9, trueRoot 0⟩ = some votes ∧ (start.weigh votes).toNat ≤ 1 := by
  have hrelabels : Relabels readSigner eveAlone masquerade := by decide +kernel
  have hweight : registeredWeight (start.attestors.owners
      (signersFor readSigner eveAlone ⟨"chain", 9, trueRoot 0⟩)) = 1 := by decide +kernel
  have hsome : ((Tally.ofBatch readSigner start masquerade).freshVotes.get?
      ⟨"chain", 9, trueRoot 0⟩).isSome := by decide +kernel
  obtain ⟨votes, hvotes⟩ := Option.isSome_iff_exists.1 hsome
  obtain ⟨hle, hregistered⟩ := (one_vote_for_each_key readSigner start).2.2 eveAlone masquerade
    hrelabels ⟨"chain", 9, trueRoot 0⟩ votes (.inl hvotes)
  exact ⟨hrelabels, hweight, votes, hvotes, hweight ▸ hle.trans hregistered⟩

end Attestation
