import Attestation.Client.Tally
import Attestation.Proofs.Client.Registration
import Attestation.Proofs.Client.Weight
import Attestation.Proofs.OrderedMap

/-!
# Support for a root

What a batch of claims says about a root at a height, stated on the batch alone: which claims are
usable and what the others lack, which attestors support the root, whether their exact weight is a
quorum, whether some attestor signed two roots, and whether the height is in conflict. None of this
knows of tallies or of saturated weights.
-/

namespace Attestation

/-! ### Usable claims -/

/-- A claim is usable if it is for the client's chain and its signature recovers to the address
of the attestor that it names. -/
def Claim.Usable (recover : Recovery) (s : ClientState) (c : Claim) : Prop :=
  c.snapshot.chainId = s.chainId ∧ ∃ a ∈ s.attestors.members, a.id = c.attestorId ∧
    ∃ message, c.snapshot.signable? = some message ∧ recover message c.signature = .ok a.address

theorem Claim.isSignedBy_iff {recover : Recovery} {c : Claim} {address : Address} :
    c.isSignedBy recover address ↔
      ∃ message, c.snapshot.signable? = some message ∧
        recover message c.signature = .ok address := by
  rw [isSignedBy, signer]
  cases c.snapshot.signable? with
  | none => simp
  | some message => cases h : recover message c.signature <;> simp [Except.mapError, h]

/-- The tally takes a claim for usable exactly if it is. -/
theorem Claim.standing_eq_usable_iff {recover : Recovery} {s : ClientState} {c : Claim} :
    c.standing recover s = .usable ↔ c.Usable recover s := by
  rw [standing, Usable]
  constructor
  · intro h
    split at h
    · contradiction
    · rename_i a hfind
      obtain ⟨hmem, hid⟩ := AttestorSet.find?_eq_some_iff.1 hfind
      split_ifs at h with hchain hsigned
      exact ⟨not_not.1 hchain, a, hmem, hid, isSignedBy_iff.1 hsigned⟩
  · rintro ⟨hchain, a, hmem, hid, hsigned⟩
    rw [AttestorSet.find?_eq_some_iff.2 ⟨hmem, hid⟩]
    simp only [hchain, isSignedBy_iff.2 hsigned, ne_eq, not_true_eq_false, if_false, if_true]

instance (recover : Recovery) (s : ClientState) (c : Claim) : Decidable (c.Usable recover s) :=
  decidable_of_iff _ Claim.standing_eq_usable_iff

/-! ### Claims that are not usable -/

/-- A claim names a registered attestor. -/
def Claim.NamesMember (s : ClientState) (c : Claim) : Prop :=
  ∃ a ∈ s.attestors.members, a.id = c.attestorId

instance (s : ClientState) (c : Claim) : Decidable (c.NamesMember s) :=
  inferInstanceAs (Decidable (∃ a ∈ s.attestors.members, _))

theorem Claim.Usable.namesMember {recover : Recovery} {s : ClientState} {c : Claim}
    (h : c.Usable recover s) : c.NamesMember s := by
  obtain ⟨-, a, hmem, hid, -⟩ := h
  exact ⟨a, hmem, hid⟩

/-- The tally takes a claim for a stranger's exactly if it names no member. -/
theorem Claim.standing_eq_stranger_iff (recover : Recovery) {s : ClientState} {c : Claim} :
    c.standing recover s = .stranger ↔ ¬ c.NamesMember s := by
  rw [NamesMember, ← AttestorSet.find?_eq_none_iff, standing]
  cases s.attestors.find? c.attestorId with
  | none => exact iff_of_true rfl rfl
  | some a =>
    refine iff_of_false ?_ (by simp)
    dsimp only
    split_ifs <;> simp

/-- A claim is foreign if it names a registered attestor and is for another chain. -/
def Claim.Foreign (s : ClientState) (c : Claim) : Prop :=
  (∃ a ∈ s.attestors.members, a.id = c.attestorId) ∧ c.snapshot.chainId ≠ s.chainId

instance (s : ClientState) (c : Claim) : Decidable (c.Foreign s) :=
  inferInstanceAs (Decidable (_ ∧ _))

theorem Claim.standing_eq_otherChain_iff (recover : Recovery) {s : ClientState} {c : Claim} :
    c.standing recover s = .otherChain ↔ c.Foreign s := by
  rw [standing, Foreign]
  cases hfind : s.attestors.find? c.attestorId with
  | none =>
    refine iff_of_false (fun h => nomatch h) ?_
    rintro ⟨⟨a, ha⟩, -⟩
    exact nomatch hfind.symm.trans (AttestorSet.find?_eq_some_iff.2 ha)
  | some a =>
    have hmember : ∃ a ∈ s.attestors.members, a.id = c.attestorId :=
      ⟨a, AttestorSet.find?_eq_some_iff.1 hfind⟩
    by_cases hchain : c.snapshot.chainId = s.chainId
    · by_cases hsigned : c.isSignedBy recover a.address <;> simp [hchain, hsigned]
    · simp [hchain, hmember]

/-- A claim for the client's chain is forged if the attestor that it names did not sign it. -/
def Claim.Forged (recover : Recovery) (s : ClientState) (c : Claim) : Prop :=
  c.snapshot.chainId = s.chainId ∧
    ∃ a ∈ s.attestors.members, a.id = c.attestorId ∧ ¬ c.isSignedBy recover a.address

instance (recover : Recovery) (s : ClientState) (c : Claim) : Decidable (c.Forged recover s) :=
  inferInstanceAs (Decidable (_ ∧ ∃ a ∈ s.attestors.members, _))

theorem Claim.Forged.namesMember {recover : Recovery} {s : ClientState} {c : Claim}
    (h : c.Forged recover s) : c.NamesMember s := by
  obtain ⟨-, a, hmem, hid, -⟩ := h
  exact ⟨a, hmem, hid⟩

theorem Claim.standing_eq_forged_iff {recover : Recovery} {s : ClientState} {c : Claim} :
    c.standing recover s = .forged ↔ c.Forged recover s := by
  rw [standing, Forged]
  constructor
  · intro h
    split at h
    · contradiction
    · rename_i a hfind
      obtain ⟨hmem, hid⟩ := AttestorSet.find?_eq_some_iff.1 hfind
      split_ifs at h with hchain hsigned
      exact ⟨not_not.1 hchain, a, hmem, hid, hsigned⟩
  · rintro ⟨hchain, a, hmem, hid, hunsigned⟩
    rw [AttestorSet.find?_eq_some_iff.2 ⟨hmem, hid⟩]
    simp only [hchain, hunsigned, ne_eq, not_true_eq_false, Bool.false_eq_true, if_false]

/-- A claim in the name of a registered attestor is for another chain, forged or usable. -/
theorem Claim.NamesMember.foreign_or_forged_or_usable (recover : Recovery) {s : ClientState}
    {c : Claim} (h : c.NamesMember s) : c.Foreign s ∨ c.Forged recover s ∨ c.Usable recover s := by
  rw [← standing_eq_otherChain_iff recover, ← standing_eq_forged_iff, ← standing_eq_usable_iff]
  cases hstanding : c.standing recover s with
  | stranger => exact absurd h ((standing_eq_stranger_iff recover).1 hstanding)
  | otherChain => exact .inl rfl
  | forged => exact .inr (.inl rfl)
  | usable => exact .inr (.inr rfl)

/-! ### Support -/

section Batch

variable (recover : Recovery) (s : ClientState) (batch : List Claim)

/-- The usable claims of a batch for a root at a height. -/
def supporting (height : UInt64) (root : Digest) : List Claim :=
  batch.filter fun c =>
    c.Usable recover s ∧ c.snapshot.height = height ∧ c.snapshot.root = root

/-- The attestors with a usable claim for a root at a height, in the order of their ids. -/
def supporters (height : UInt64) (root : Digest) : List Attestor :=
  s.attestors.members.filter fun a =>
    ∃ c ∈ supporting recover s batch height root, c.attestorId = a.id

/-- The exact weight behind a root at a height. -/
def support (height : UInt64) (root : Digest) : Nat :=
  s.policy.exactWeight (supporters recover s batch height root)

/-- A root has a quorum if somebody supports it and the exact weight reaches the threshold. -/
def HasQuorum (height : UInt64) (root : Digest) : Prop :=
  supporters recover s batch height root ≠ [] ∧
    s.policy.threshold.toNat ≤ support recover s batch height root

/-- Some attestor has usable claims for two roots at a height. -/
def Equivocated (height : UInt64) : Prop :=
  ∃ root root', root ≠ root' ∧ ∃ a, a ∈ supporters recover s batch height root ∧
    a ∈ supporters recover s batch height root'

/-- A height is in conflict if one root has a quorum and a second root has one too or some attestor
signed two roots. -/
def Conflict (height : UInt64) : Prop :=
  ∃ root, HasQuorum recover s batch height root ∧
    ((∃ other, other ≠ root ∧ HasQuorum recover s batch height other) ∨
      Equivocated recover s batch height)

end Batch

variable {recover : Recovery} {s : ClientState} {batch : List Claim} {height : UInt64}
  {root : Digest}

/-- Claims support a root at a height if they are usable and state it. -/
theorem mem_supporting {c : Claim} :
    c ∈ supporting recover s batch height root ↔
      c ∈ batch ∧ c.Usable recover s ∧ c.snapshot.height = height ∧ c.snapshot.root = root := by
  simp [supporting]

/-- Members support a root if a supporting claim is under their id. -/
theorem mem_supporters {a : Attestor} :
    a ∈ supporters recover s batch height root ↔ a ∈ s.attestors.members ∧
      ∃ c ∈ supporting recover s batch height root, c.attestorId = a.id := by
  simp [supporters]

/-- Who names itself in a usable claim supports the root. -/
theorem exists_supporter {c : Claim} (h : c ∈ supporting recover s batch height root) :
    ∃ a ∈ supporters recover s batch height root, a.id = c.attestorId := by
  obtain ⟨-, ⟨-, a, hmem, hid, -⟩, -⟩ := mem_supporting.1 h
  exact ⟨a, mem_supporters.2 ⟨hmem, c, h, hid.symm⟩, hid⟩

/-- A root has supporters exactly if it has supporting claims. -/
theorem supporters_eq_nil_iff :
    supporters recover s batch height root = [] ↔ supporting recover s batch height root = [] := by
  simp only [List.eq_nil_iff_forall_not_mem]
  constructor
  · intro h c hc
    obtain ⟨a, ha, -⟩ := exists_supporter hc
    exact h a ha
  · intro h a ha
    obtain ⟨-, c, hc, -⟩ := mem_supporters.1 ha
    exact h c hc

/-- The ids of the supporters are those named in the supporting claims. -/
theorem mem_map_id_supporters {id : String} :
    id ∈ (supporters recover s batch height root).map (·.id) ↔
      ∃ c ∈ supporting recover s batch height root, c.attestorId = id := by
  rw [List.mem_map]
  constructor
  · rintro ⟨a, ha, rfl⟩
    exact (mem_supporters.1 ha).2
  · rintro ⟨c, hc, rfl⟩
    exact exists_supporter hc

theorem increasing_map_id_supporters :
    Increasing ((supporters recover s batch height root).map (·.id)) :=
  s.attestors.sorted.sublist (List.filter_sublist.map _)

/-- More claims take no support away. -/
theorem supporters_sublist {batch' : List Claim} (h : batch ⊆ batch') :
    (supporters recover s batch height root).Sublist (supporters recover s batch' height root) := by
  refine List.monotone_filter_right _ fun a ha => ?_
  obtain ⟨c, hc, hid⟩ := of_decide_eq_true ha
  obtain ⟨hmem, hfor⟩ := mem_supporting.1 hc
  exact decide_eq_true ⟨c, mem_supporting.2 ⟨h hmem, hfor⟩, hid⟩

/-- More claims leave a quorum. -/
theorem HasQuorum.mono {batch' : List Claim} (hquorum : HasQuorum recover s batch height root)
    (h : batch ⊆ batch') : HasQuorum recover s batch' height root := by
  have hsublist : (supporters recover s batch height root).Sublist
      (supporters recover s batch' height root) := supporters_sublist h
  have hle := s.policy.exactWeight_mono hsublist
  exact ⟨fun hnil => hquorum.1 (List.sublist_nil.1 (hnil ▸ hsublist)), hquorum.2.trans hle⟩

/-- An equivocation is seen on two claims of one id. -/
theorem equivocated_iff :
    Equivocated recover s batch height ↔
      ∃ c ∈ batch, ∃ d ∈ batch, c.Usable recover s ∧ d.Usable recover s ∧
        c.attestorId = d.attestorId ∧ c.snapshot.height = height ∧ d.snapshot.height = height ∧
        c.snapshot.root ≠ d.snapshot.root := by
  constructor
  · rintro ⟨root, root', hne, a, ha, ha'⟩
    obtain ⟨-, c, hc, hcid⟩ := mem_supporters.1 ha
    obtain ⟨-, d, hd, hdid⟩ := mem_supporters.1 ha'
    obtain ⟨hcb, hcu, hch, rfl⟩ := mem_supporting.1 hc
    obtain ⟨hdb, hdu, hdh, rfl⟩ := mem_supporting.1 hd
    exact ⟨c, hcb, d, hdb, hcu, hdu, hcid.trans hdid.symm, hch, hdh, hne⟩
  · rintro ⟨c, hcb, d, hdb, hcu, hdu, hid, hch, hdh, hne⟩
    obtain ⟨-, a, hmem, haid, -⟩ := id hcu
    refine ⟨c.snapshot.root, d.snapshot.root, hne, a, ?_, ?_⟩
    · exact mem_supporters.2 ⟨hmem, c, mem_supporting.2 ⟨hcb, hcu, hch, rfl⟩, haid.symm⟩
    · exact mem_supporters.2 ⟨hmem, d, mem_supporting.2 ⟨hdb, hdu, hdh, rfl⟩,
        hid.symm.trans haid.symm⟩

theorem Equivocated.mono {batch' : List Claim} (h : Equivocated recover s batch height)
    (hsub : batch ⊆ batch') : Equivocated recover s batch' height := by
  obtain ⟨root, root', hne, a, ha, ha'⟩ := h
  have hstill : ∀ root, supporters recover s batch height root ⊆
      supporters recover s batch' height root := fun _ => (supporters_sublist hsub).subset
  exact ⟨root, root', hne, a, hstill root ha, hstill root' ha'⟩

/-- More claims settle no conflict. -/
theorem Conflict.mono {batch' : List Claim} (h : Conflict recover s batch height)
    (hsub : batch ⊆ batch') : Conflict recover s batch' height := by
  obtain ⟨root, hquorum, ⟨other, hne, hother⟩ | hequivocated⟩ := h
  · exact ⟨root, hquorum.mono hsub, .inl ⟨other, hne, hother.mono hsub⟩⟩
  · exact ⟨root, hquorum.mono hsub, .inr (hequivocated.mono hsub)⟩

end Attestation
