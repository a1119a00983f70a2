import Attestation.Wire.Messages
import Attestation.Proofs.Bytes
import Attestation.Proofs.Except

/-!
# The binary layout reads back

`Codes write read fits` says that the values that pass `fits` are read back, whatever follows their
binary form, and that no others are read. Only lengths have to fit: they are written in eight bytes.
Each way of building formats keeps the law, so that a message has it by the way it is built.
-/

namespace Attestation.WireFormat

variable {α β : Type}

/-- Values that pass `fits` are read back in front of anything, and only such values are read. -/
structure Codes (write : α → Bytes) (read : Bytes → Except DecodeError (α × Bytes))
    (fits : α → Prop) : Prop where
  read_write {a : α} (h : fits a) (t : Bytes) : read (write a ++ t) = .ok (a, t)
  fits_of_read {s t : Bytes} {a : α} (h : read s = .ok (a, t)) : fits a

/-- The law for the binary layout of a format. -/
abbrev Binary (f : WireFormat α) (fits : α → Prop) : Prop := Codes f.toBytes f.ofBytes fits

/-- Lists whose length can be written in eight bytes. -/
def Short (l : List α) : Prop := l.length < 256 ^ 8

instance (l : List α) : Decidable (Short l) := inferInstanceAs (Decidable (l.length < 256 ^ 8))

theorem Codes.congr {write : α → Bytes} {read : Bytes → Except DecodeError (α × Bytes)}
    {fits fits' : α → Prop} (h : Codes write read fits) (heq : ∀ a, fits a ↔ fits' a) :
    Codes write read fits' where
  read_write hfits := h.read_write ((heq _).2 hfits)
  fits_of_read hread := (heq _).1 (h.fits_of_read hread)

/-! ### Numbers, blocks and texts -/

/-- A number of bytes is taken off the front, if there are so many. -/
theorem takeBytes_eq_ok_iff {n : Nat} {s a t : Bytes} :
    takeBytes n s = .ok (a, t) ↔ s = a ++ t ∧ a.length = n := by
  rw [takeBytes, List.splitAt_eq]
  constructor
  · intro h
    split at h
    · rename_i hn
      obtain ⟨rfl, rfl⟩ := Prod.mk.inj (Except.ok.inj h)
      exact ⟨(List.take_append_drop n s).symm, List.length_take_of_le hn⟩
    · contradiction
  · rintro ⟨rfl, rfl⟩
    simp

/-- Numbers that fit the width are read back. -/
theorem codes_takeNat {width : Nat} :
    Codes (Bytes.ofNatLE width) (takeNat width) (· < 256 ^ width) where
  read_write {n} h t := by
    rw [takeNat, takeBytes_eq_ok_iff.2 ⟨rfl, Bytes.length_ofNatLE width n⟩, ok_bind]
    exact congrArg (fun n => Except.ok (n, t)) (Bytes.toNatLE_ofNatLE h)
  fits_of_read {s t n} h := by
    obtain ⟨⟨digits, rest⟩, hdigits, h⟩ := bind_eq_ok.1 h
    obtain ⟨rfl, rfl⟩ := Prod.mk.inj (Except.ok.inj h)
    obtain ⟨-, rfl⟩ := takeBytes_eq_ok_iff.1 hdigits
    exact Bytes.toNatLE_lt digits

/-- Blocks behind their length are read back. -/
theorem codes_takeBlock : Codes writeBlock takeBlock Short where
  read_write {bytes} h t := by
    rw [takeBlock, writeBlock, List.append_assoc, codes_takeNat.read_write h, ok_bind]
    exact takeBytes_eq_ok_iff.2 ⟨rfl, rfl⟩
  fits_of_read h := by
    obtain ⟨⟨n, rest⟩, hn, h⟩ := bind_eq_ok.1 h
    obtain ⟨-, rfl⟩ := takeBytes_eq_ok_iff.1 h
    exact codes_takeNat.fits_of_read hn

theorem binary_word : word.Binary fun _ => True where
  read_write {w} _ t := by
    show (takeNat 8 (Bytes.ofNatLE 8 w.toNat ++ t) >>= _) = _
    rw [codes_takeNat.read_write w.toNat_lt, ok_bind]
    exact congrArg (fun w => Except.ok (w, t)) UInt64.ofNat_toNat
  fits_of_read _ := trivial

theorem binary_byte : byte.Binary fun _ => True where
  read_write _ _ := rfl
  fits_of_read _ := trivial

/-- Texts are read back if their length fits. -/
theorem binary_text : text.Binary fun t => Short (Bytes.ofText t) where
  read_write {text} h t := by
    refine bind_eq_ok.2 ⟨_, codes_takeBlock.read_write h t, ?_⟩
    exact bind_eq_ok.2 ⟨text, require_eq_ok.2 (Bytes.toText?_ofText text), rfl⟩
  fits_of_read {s t a} h := by
    obtain ⟨⟨bytes, rest⟩, hblock, h⟩ := bind_eq_ok.1 h
    obtain ⟨a', htext, h⟩ := bind_eq_ok.1 h
    obtain ⟨rfl, rfl⟩ := Prod.mk.inj (Except.ok.inj h)
    rw [Bytes.ofText_of_toText? (require_eq_ok.1 htext)]
    exact codes_takeBlock.fits_of_read hblock

theorem binary_fixed {n : Nat} (h : n < 256 ^ 8) : (fixed n).Binary fun _ => True where
  read_write {a} _ t := by
    have hshort : Short a.toBytes := a.length_eq.trans_lt h
    refine bind_eq_ok.2 ⟨_, codes_takeBlock.read_write hshort t, ?_⟩
    exact bind_eq_ok.2 ⟨a, require_eq_ok.2 (dif_pos a.length_eq), rfl⟩
  fits_of_read _ := trivial

/-! ### Lists -/

theorem length_of_takeMany {f : WireFormat α} {n : Nat} {s t : Bytes} {l : List α}
    (h : f.takeMany n s = .ok (l, t)) : l.length = n := by
  induction n generalizing s l with
  | zero =>
    obtain ⟨rfl, -⟩ := Prod.mk.inj (Except.ok.inj h)
    rfl
  | succ n ih =>
    obtain ⟨⟨a, rest⟩, ha, h⟩ := bind_eq_ok.1 h
    obtain ⟨⟨as, rest'⟩, has, h⟩ := bind_eq_ok.1 h
    obtain ⟨rfl, rfl⟩ := Prod.mk.inj (Except.ok.inj h)
    exact congrArg (· + 1) (ih has)

/-- Elements are read back one after the other. -/
theorem codes_takeMany {f : WireFormat α} {fits : α → Prop} (hf : f.Binary fits) (n : Nat) :
    Codes (·.flatMap f.toBytes) (f.takeMany n) fun l => l.length = n ∧ ∀ a ∈ l, fits a where
  read_write {l} h t := by
    obtain ⟨rfl, hfits⟩ := h
    induction l with
    | nil => rfl
    | cons a l ih =>
      obtain ⟨ha, hl⟩ := List.forall_mem_cons.1 hfits
      rw [List.flatMap_cons, List.append_assoc]
      refine bind_eq_ok.2 ⟨_, hf.read_write ha _, ?_⟩
      exact bind_eq_ok.2 ⟨_, ih hl, rfl⟩
  fits_of_read {s t l} h := by
    refine ⟨length_of_takeMany h, ?_⟩
    induction n generalizing s l with
    | zero =>
      obtain ⟨rfl, -⟩ := Prod.mk.inj (Except.ok.inj h)
      exact fun _ ha => nomatch ha
    | succ n ih =>
      obtain ⟨⟨a, rest⟩, ha, h⟩ := bind_eq_ok.1 h
      obtain ⟨⟨as, rest'⟩, has, h⟩ := bind_eq_ok.1 h
      obtain ⟨rfl, rfl⟩ := Prod.mk.inj (Except.ok.inj h)
      exact List.forall_mem_cons.2 ⟨hf.fits_of_read ha, ih has⟩

/-- Lists are read back if their length fits and so do their elements. -/
theorem Binary.list {f : WireFormat α} {fits : α → Prop} (hf : f.Binary fits) :
    (list f).Binary fun l => Short l ∧ ∀ a ∈ l, fits a where
  read_write {l} h t := by
    show (takeNat 8 (_ ++ _ ++ t) >>= _) = _
    rw [List.append_assoc]
    refine bind_eq_ok.2 ⟨_, codes_takeNat.read_write h.1 _, ?_⟩
    exact (codes_takeMany hf l.length).read_write ⟨rfl, h.2⟩ t
  fits_of_read h := by
    obtain ⟨⟨n, rest⟩, hn, h⟩ := bind_eq_ok.1 h
    obtain ⟨rfl, hfits⟩ := (codes_takeMany hf n).fits_of_read h
    exact ⟨codes_takeNat.fits_of_read hn, hfits⟩

/-! ### Views, records and choices -/

/-- A format whose values are written as others that pass the check, and that knows them all. -/
theorem Binary.refine {f : WireFormat α} {fits : α → Prop} (hf : f.Binary fits)
    {check : α → Except DecodeError β} {view : β → α} (hview : ∀ b, check (view b) = .ok b)
    (hcheck : ∀ a b, check a = .ok b → fits a → fits (view b)) :
    (f.refine check view).Binary fun b => fits (view b) where
  read_write {b} h t :=
    bind_eq_ok.2 ⟨_, hf.read_write h t, bind_eq_ok.2 ⟨b, hview b, rfl⟩⟩
  fits_of_read {s t b} h := by
    obtain ⟨⟨a, rest⟩, ha, h⟩ := bind_eq_ok.1 h
    obtain ⟨b', hb, h⟩ := bind_eq_ok.1 h
    obtain ⟨rfl, rfl⟩ := Prod.mk.inj (Except.ok.inj h)
    exact hcheck a b' hb (hf.fits_of_read ha)

/-- The law passes to types that are the same but for their presentation. -/
theorem Binary.view {f : WireFormat α} {fits : α → Prop} (hf : f.Binary fits) {make : α → β}
    {view : β → α} (hmake : ∀ b, make (view b) = b) (hview : ∀ a, view (make a) = a) :
    (f.view make view).Binary fun b => fits (view b) :=
  hf.refine (fun b => congrArg _ (hmake b)) fun a b hb ha => by
    rwa [← Except.ok.inj hb, hview]

theorem codes_nil : Codes Fields.nil.toBytes Fields.nil.ofBytes fun _ => True where
  read_write _ _ := rfl
  fits_of_read _ := trivial

/-- A record is read back field by field. -/
theorem Codes.cons {fs : Fields β} {fits' : β → Prop} (hfs : Codes fs.toBytes fs.ofBytes fits')
    (name : String) {f : WireFormat α} {fits : α → Prop} (hf : f.Binary fits) :
    Codes (Fields.cons name f fs).toBytes (Fields.cons name f fs).ofBytes
      fun a => fits a.1 ∧ fits' a.2 where
  read_write {a} h t := by
    show (f.ofBytes (_ ++ _ ++ t) >>= _) = _
    rw [List.append_assoc]
    refine bind_eq_ok.2 ⟨_, hf.read_write h.1 _, ?_⟩
    exact bind_eq_ok.2 ⟨_, hfs.read_write h.2 t, rfl⟩
  fits_of_read h := by
    obtain ⟨⟨a, rest⟩, ha, h⟩ := bind_eq_ok.1 h
    obtain ⟨⟨b, rest'⟩, hb, h⟩ := bind_eq_ok.1 h
    obtain ⟨rfl, rfl⟩ := Prod.mk.inj (Except.ok.inj h)
    exact ⟨hf.fits_of_read ha, hfs.fits_of_read hb⟩

theorem Codes.record {fs : Fields α} {fits : α → Prop} (h : Codes fs.toBytes fs.ofBytes fits) :
    (record fs).Binary fits := h

theorem binary_unit (name : String) : (Case.unit name).content.Binary fun _ => True where
  read_write _ _ := rfl
  fits_of_read _ := trivial

/-- A choice is read back by its index. -/
theorem Binary.choice (left : Case α) (right : Case β) {fits : α → Prop} {fits' : β → Prop}
    (hleft : left.content.Binary fits) (hright : right.content.Binary fits') :
    (choice left right).Binary (Sum.elim fits fits') where
  read_write {c} h t := by
    cases c with
    | inl a =>
      show (takeNat 4 (_ ++ _ ++ t) >>= _) = _
      rw [List.append_assoc]
      refine bind_eq_ok.2 ⟨_, codes_takeNat.read_write (by decide) _, ?_⟩
      exact bind_eq_ok.2 ⟨_, hleft.read_write h t, rfl⟩
    | inr b =>
      show (takeNat 4 (_ ++ _ ++ t) >>= _) = _
      rw [List.append_assoc]
      refine bind_eq_ok.2 ⟨_, codes_takeNat.read_write (by decide) _, ?_⟩
      exact bind_eq_ok.2 ⟨_, hright.read_write h t, rfl⟩
  fits_of_read {s t c} h := by
    obtain ⟨⟨index, rest⟩, -, h⟩ := bind_eq_ok.1 h
    dsimp only at h
    split_ifs at h
    · obtain ⟨⟨a, rest'⟩, ha, h⟩ := bind_eq_ok.1 h
      obtain ⟨rfl, rfl⟩ := Prod.mk.inj (Except.ok.inj h)
      exact hleft.fits_of_read ha
    · obtain ⟨⟨b, rest'⟩, hb, h⟩ := bind_eq_ok.1 h
      obtain ⟨rfl, rfl⟩ := Prod.mk.inj (Except.ok.inj h)
      exact hright.fits_of_read hb

/-- An optional value is read back behind the byte that says whether it is there. -/
theorem Binary.optional {f : WireFormat α} {fits : α → Prop} (hf : f.Binary fits) :
    (optional f).Binary fun o => ∀ a ∈ o, fits a where
  read_write {o} h t := by
    cases o with
    | none => rfl
    | some a => exact bind_eq_ok.2 ⟨_, hf.read_write (h a rfl) t, rfl⟩
  fits_of_read {s t o} h := by
    dsimp only [WireFormat.optional] at h
    split at h
    · obtain ⟨rfl, -⟩ := Prod.mk.inj (Except.ok.inj h)
      exact fun _ ha => nomatch ha
    · obtain ⟨⟨a, rest⟩, ha, h⟩ := bind_eq_ok.1 h
      obtain ⟨rfl, rfl⟩ := Prod.mk.inj (Except.ok.inj h)
      intro b hb
      rw [← Option.some.inj hb]
      exact hf.fits_of_read ha
    · contradiction

end Attestation.WireFormat
