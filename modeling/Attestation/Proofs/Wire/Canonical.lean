import Attestation.Proofs.Wire.Binary

/-!
# The binary layout is canonical

`Consumes write read` says that a value is read only from its own binary form. Together with the law
`Codes` it makes reading the inverse of writing on every byte string, not only on those that were
written. Formats keep it by the way they are built, except where a value is written as a listing
that may be read from another listing of the same elements: attestor sets and maps do not have it.
-/

namespace Attestation.WireFormat

variable {α β : Type}

/-- Whatever is read stands in front as it is written. -/
def Consumes (write : α → Bytes) (read : Bytes → Except DecodeError (α × Bytes)) : Prop :=
  ∀ ⦃s t : Bytes⦄ ⦃a : α⦄, read s = .ok (a, t) → s = write a ++ t

/-- The law for the binary layout of a format. -/
abbrev Canonical (f : WireFormat α) : Prop := Consumes f.toBytes f.ofBytes

/-! ### Numbers, blocks and texts -/

/-- The bytes of a number are those that it is written in. -/
theorem consumes_takeNat (width : Nat) : Consumes (Bytes.ofNatLE width) (takeNat width) := by
  intro s t n h
  obtain ⟨⟨digits, rest⟩, hdigits, h⟩ := bind_eq_ok.1 h
  obtain ⟨rfl, rfl⟩ := Prod.mk.inj (Except.ok.inj h)
  obtain ⟨rfl, rfl⟩ := takeBytes_eq_ok_iff.1 hdigits
  rw [Bytes.ofNatLE_toNatLE]

theorem consumes_takeBlock : Consumes writeBlock takeBlock := by
  intro s t bytes h
  obtain ⟨⟨n, rest⟩, hn, h⟩ := bind_eq_ok.1 h
  obtain ⟨rfl, rfl⟩ := takeBytes_eq_ok_iff.1 h
  rw [consumes_takeNat 8 hn, writeBlock, List.append_assoc]

theorem canonical_word : word.Canonical := by
  intro s t w h
  obtain ⟨⟨n, rest⟩, hn, h⟩ := bind_eq_ok.1 h
  obtain ⟨rfl, rfl⟩ := Prod.mk.inj (Except.ok.inj h)
  -- eight bytes hold no number that a word does not
  have hlt : n < UInt64.size := codes_takeNat.fits_of_read hn
  rw [consumes_takeNat 8 hn]
  show _ = Bytes.ofNatLE 8 (UInt64.ofNat n).toNat ++ rest
  rw [UInt64.toNat_ofNat_of_lt' hlt]

theorem canonical_byte : byte.Canonical := by
  intro s t b h
  cases s with
  | nil => contradiction
  | cons b' s =>
    obtain ⟨rfl, rfl⟩ := Prod.mk.inj (Except.ok.inj h)
    rfl

/-- A text is read only from its own bytes. -/
theorem canonical_text : text.Canonical := by
  intro s t a h
  obtain ⟨⟨bytes, rest⟩, hblock, h⟩ := bind_eq_ok.1 h
  obtain ⟨a', htext, h⟩ := bind_eq_ok.1 h
  obtain ⟨rfl, rfl⟩ := Prod.mk.inj (Except.ok.inj h)
  rw [consumes_takeBlock hblock, ← Bytes.ofText_of_toText? (require_eq_ok.1 htext)]
  rfl

theorem canonical_fixed (n : Nat) : (fixed n).Canonical := by
  intro s t a h
  obtain ⟨⟨bytes, rest⟩, hblock, h⟩ := bind_eq_ok.1 h
  obtain ⟨a', hfixed, h⟩ := bind_eq_ok.1 h
  obtain ⟨rfl, rfl⟩ := Prod.mk.inj (Except.ok.inj h)
  replace hfixed := require_eq_ok.1 hfixed
  rw [FixedBytes.ofBytes?] at hfixed
  split_ifs at hfixed
  rw [consumes_takeBlock hblock, ← Option.some.inj hfixed]
  rfl

/-! ### Lists -/

theorem Canonical.takeMany {f : WireFormat α} (hf : f.Canonical) (n : Nat) :
    Consumes (·.flatMap f.toBytes) (f.takeMany n) := by
  induction n with
  | zero =>
    intro s t l h
    obtain ⟨rfl, rfl⟩ := Prod.mk.inj (Except.ok.inj h)
    rfl
  | succ n ih =>
    intro s t l h
    obtain ⟨⟨a, rest⟩, ha, h⟩ := bind_eq_ok.1 h
    obtain ⟨⟨as, rest'⟩, has, h⟩ := bind_eq_ok.1 h
    obtain ⟨rfl, rfl⟩ := Prod.mk.inj (Except.ok.inj h)
    rw [hf ha, ih has]
    exact (List.append_assoc ..).symm

/-- Lists keep the law: the length that is read is the one that is written. -/
theorem Canonical.list {f : WireFormat α} (hf : f.Canonical) : (list f).Canonical := by
  intro s t l h
  obtain ⟨⟨n, rest⟩, hn, h⟩ := bind_eq_ok.1 h
  obtain rfl := length_of_takeMany h
  rw [consumes_takeNat 8 hn, hf.takeMany _ h]
  exact (List.append_assoc ..).symm

/-! ### Views, records and choices -/

/-- The law passes to types that are the same but for their presentation. -/
theorem Canonical.view {f : WireFormat α} (hf : f.Canonical) {make : α → β} {view : β → α}
    (hview : ∀ a, view (make a) = a) : (f.view make view).Canonical := by
  intro s t b h
  obtain ⟨⟨a, rest⟩, ha, h⟩ := bind_eq_ok.1 h
  obtain ⟨rfl, rfl⟩ := Prod.mk.inj (Except.ok.inj h)
  show s = f.toBytes (view (make a)) ++ rest
  rw [hview]
  exact hf ha

theorem consumes_nil : Consumes Fields.nil.toBytes Fields.nil.ofBytes := by
  intro s t a h
  obtain ⟨-, rfl⟩ := Prod.mk.inj (Except.ok.inj h)
  rfl

/-- A record keeps the law field by field. -/
theorem Consumes.cons {fs : Fields β} (hfs : Consumes fs.toBytes fs.ofBytes) (name : String)
    {f : WireFormat α} (hf : f.Canonical) :
    Consumes (Fields.cons name f fs).toBytes (Fields.cons name f fs).ofBytes := by
  intro s t a h
  obtain ⟨⟨a, rest⟩, ha, h⟩ := bind_eq_ok.1 h
  obtain ⟨⟨b, rest'⟩, hb, h⟩ := bind_eq_ok.1 h
  obtain ⟨rfl, rfl⟩ := Prod.mk.inj (Except.ok.inj h)
  rw [hf ha, hfs hb]
  exact (List.append_assoc ..).symm

theorem Consumes.record {fs : Fields α} (h : Consumes fs.toBytes fs.ofBytes) :
    (record fs).Canonical := h

theorem canonical_unit (name : String) : (Case.unit name).content.Canonical := by
  intro s t a h
  obtain ⟨-, rfl⟩ := Prod.mk.inj (Except.ok.inj h)
  rfl

/-- A choice keeps the law: no other index is read as the same case. -/
theorem Canonical.choice (left : Case α) (right : Case β) (hleft : left.content.Canonical)
    (hright : right.content.Canonical) : (choice left right).Canonical := by
  intro s t c h
  obtain ⟨⟨index, rest⟩, hindex, h⟩ := bind_eq_ok.1 h
  rw [consumes_takeNat 4 hindex]
  dsimp only at h
  split_ifs at h with hzero hone
  · obtain ⟨⟨a, rest'⟩, ha, h⟩ := bind_eq_ok.1 h
    obtain ⟨rfl, rfl⟩ := Prod.mk.inj (Except.ok.inj h)
    rw [hzero, hleft ha]
    exact (List.append_assoc ..).symm
  · obtain ⟨⟨b, rest'⟩, hb, h⟩ := bind_eq_ok.1 h
    obtain ⟨rfl, rfl⟩ := Prod.mk.inj (Except.ok.inj h)
    rw [hone, hright hb]
    exact (List.append_assoc ..).symm

end Attestation.WireFormat
