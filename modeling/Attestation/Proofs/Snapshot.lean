import Attestation.Proofs.Bytes
import Attestation.Snapshot

/-!
# What is signed tells the snapshot

The bytes that are signed begin with the length of the chain id, so that it is known where the id
ends whatever it is made of, and behind it all parts have fixed lengths. The parts are split off one
after another, each by its length, so that no two snapshots are signed in the same bytes and none in
bytes that begin another's (`signable_append_inj`).
-/

namespace Attestation.Snapshot

variable {s s' : Snapshot} {message message' rest rest' : Bytes}

/-! ### Signed bytes -/

/-- There is nothing to sign exactly if the length of the chain id does not fit in four bytes. -/
theorem signable?_eq_none_iff :
    s.signable? = none ↔ UInt32.size ≤ (Bytes.ofText s.chainId).length := by
  rw [signable?]
  split_ifs with h
  · exact iff_of_false nofun (Nat.not_le.2 h)
  · exact iff_of_true rfl (Nat.not_lt.1 h)

/-- A snapshot can be signed if its chain id fits the length field. -/
theorem exists_signable (h : (Bytes.ofText s.chainId).length < UInt32.size) :
    ∃ message, s.signable? = some message :=
  ⟨_, if_pos h⟩

/-- The signed bytes: the length of the chain id in four bytes, the id, and the other fields in
their fixed widths. -/
theorem signable?_eq_some_iff : s.signable? = some message ↔
    (Bytes.ofText s.chainId).length < UInt32.size ∧
      message = Bytes.ofNatLE 4 (Bytes.ofText s.chainId).length ++ (Bytes.ofText s.chainId ++
        (Bytes.ofNatLE 8 s.height.toNat ++ (s.root.toBytes ++
          Bytes.ofNatLE 8 s.collectedAt.toNat))) := by
  rw [signable?]
  split_ifs with h
  · simp [h, eq_comm]
  · exact iff_of_false nofun fun h' => h h'.1

/-- No signed bytes are those of another snapshot or the beginning of them. -/
theorem signable_append_inj (h : s.signable? = some message) (h' : s'.signable? = some message')
    (happend : message ++ rest = message' ++ rest') : s = s' ∧ rest = rest' := by
  obtain ⟨hlength, rfl⟩ := signable?_eq_some_iff.1 h
  obtain ⟨hlength', rfl⟩ := signable?_eq_some_iff.1 h'
  simp only [List.append_assoc] at happend
  obtain ⟨hlengths, happend⟩ := Bytes.ofNatLE_append_inj hlength hlength' happend
  obtain ⟨hchain, happend⟩ := Bytes.text_append_inj hlengths happend
  obtain ⟨hheight, happend⟩ := Bytes.word_append_inj happend
  obtain ⟨hroot, happend⟩ := FixedBytes.toBytes_append_inj happend
  obtain ⟨htime, hrest⟩ := Bytes.word_append_inj happend
  refine ⟨?_, hrest⟩
  cases s
  cases s'
  exact (mk.injEq ..).mpr ⟨hchain, hheight, hroot, htime⟩

/-- **The signed bytes determine the snapshot.** A snapshot has bytes to sign unless its chain id is
longer than four bytes can tell. Whatever follows the signed bytes of two snapshots, both come to
the same only if the snapshots are equal in all fields and so is what follows, whichever bytes are
in the chain ids. -/
theorem signed_bytes_determine (s s' : Snapshot) :
    (s.signable? = none ↔ UInt32.size ≤ (Bytes.ofText s.chainId).length) ∧
    ∀ message ∈ s.signable?, ∀ message' ∈ s'.signable?, ∀ rest rest',
      message ++ rest = message' ++ rest' ↔ s = s' ∧ rest = rest' := by
  refine ⟨signable?_eq_none_iff, fun message h message' h' rest rest' =>
    ⟨signable_append_inj h h', ?_⟩⟩
  rintro ⟨rfl, rfl⟩
  rw [Option.some.inj (h.symm.trans h')]

/-- Two snapshots in which the end of the chain id and the beginning of the height are the same
bytes. Only the length in front tells them apart. -/
theorem signed_bytes_determine_end_of_id :
    let s : Snapshot := ⟨"a", 0x62, .replicate 32 0, 0⟩
    let s' : Snapshot := ⟨"ab", 0, .replicate 32 0, 0⟩
    ∃ message message', s.signable? = some message ∧ s'.signable? = some message' ∧
      ∀ rest rest', message ++ rest ≠ message' ++ rest' := by
  intro s s'
  obtain ⟨message, h⟩ : ∃ message, s.signable? = some message := exists_signable (by decide)
  obtain ⟨message', h'⟩ : ∃ message, s'.signable? = some message := exists_signable (by decide)
  refine ⟨message, message', h, h', fun rest rest' happend => ?_⟩
  have heq := (((signed_bytes_determine s s').2 message h message' h' rest rest').1 happend).1
  exact absurd (congrArg chainId heq) (by decide)

end Attestation.Snapshot
