import Attestation.Bytes
import Mathlib.Data.String.Basic
import Mathlib.Tactic.NormNum

/-!
# Byte strings read back

Each written form of `Bytes` has its reader, and reading what was written gives the value back:
texts in UTF-8 (`toText?_ofText`), bytes in hexadecimal digits (`ofHex?_toHex`), numbers below
`256 ^ width` in base-256 digits (`toNatLE_ofNatLE`). Texts are ordered as their bytes
(`ofText_lt_ofText`), and digits written highest first compare as the numbers do
(`compare_ofNatBE`), so they are one number's only. A part whose length is known is split off the
front of what follows it in one way only (`ofNatLE_append_inj`, `text_append_inj`,
`FixedBytes.toBytes_append_inj`).
-/

namespace Attestation.Bytes

/-! ### Texts -/

/-- A text is read back from its bytes. -/
@[simp]
theorem toText?_ofText (text : String) : toText? (ofText text) = some text := by
  have hbytes : (⟨(ofText text).toArray⟩ : ByteArray) = text.toByteArray := by simp [ofText]
  rw [toText?, hbytes, String.fromUTF8?, dif_pos text.isValidUTF8]
  rfl

theorem ofText_of_toText? {bytes : Bytes} {text : String} (h : toText? bytes = some text) :
    ofText text = bytes := by
  rw [toText?, String.fromUTF8?] at h
  split_ifs at h
  rw [← Option.some.inj h]
  rfl

theorem ofText_injective : Function.Injective ofText := fun s t h =>
  Option.some.inj ((toText?_ofText s).symm.trans (h ▸ toText?_ofText t))

/-- The bytes of a text are those of its characters in turn. -/
theorem ofText_eq (text : String) : ofText text = text.toList.flatMap String.utf8EncodeChar := by
  conv_lhs => rw [← String.ofList_toList (s := text)]
  rw [ofText, String.toByteArray_ofList, List.utf8Encode]
  simp

/-- In UTF-8 a byte below 128 stands for itself only. -/
theorem toNat_mem_of_mem_ofText {text : String} {b : UInt8} (hb : b.toNat < 128)
    (h : b ∈ ofText text) : Char.ofNat b.toNat ∈ text.toList := by
  rw [ofText_eq, List.mem_flatMap] at h
  obtain ⟨c, hc, h⟩ := h
  rw [String.utf8EncodeChar] at h
  have hbyte : ∀ n, n % 64 + 128 < 256 ∧ n % 32 + 192 < 256 ∧ n % 16 + 224 < 256 ∧
      n % 8 + 240 < 256 := by omega
  -- all bytes of a longer form are at least 128
  split_ifs at h with h₁ h₂ h₃
  · rw [List.mem_singleton] at h
    have hn : b.toNat = c.toNat := by
      rw [h, UInt8.toNat_ofNat']
      exact Nat.mod_eq_of_lt (Nat.lt_of_le_of_lt h₁ (by norm_num))
    rwa [hn, Char.ofNat_toNat]
  all_goals
    simp only [List.mem_cons, List.not_mem_nil, or_false] at h
    rcases h with rfl | rfl | rfl | rfl <;>
    · rw [UInt8.toNat_ofNat'] at hb
      omega

/-- Two characters are told apart in UTF-8 at the first byte in which they differ. -/
private theorem utf8EncodeChar_append_lt {c d : Char} (h : c < d) (s t : Bytes) :
    String.utf8EncodeChar c ++ s < String.utf8EncodeChar d ++ t := by
  have hlt : c.val.toNat < d.val.toNat := h
  have hd : d.val.toNat < 0x110000 := d.valid.elim (fun h => h.trans (by decide)) (·.2)
  simp only [String.utf8EncodeChar]
  generalize c.val.toNat = m at hlt
  generalize d.val.toNat = n at hlt hd
  rw [show 262144 = 64 * 64 * 64 by decide, show 4096 = 64 * 64 by decide]
  simp only [← Nat.div_div_eq_div_mul]
  -- longer forms begin with greater bytes, and forms of one length compare as the numbers do
  split_ifs
  all_goals
    simp only [List.cons_append, List.nil_append, List.cons_lt_cons_iff, UInt8.lt_iff_toNat_lt,
      ← UInt8.toNat_inj, UInt8.toNat_ofNat']
    omega

/-- Texts are ordered as their UTF-8 bytes. -/
theorem ofText_lt_ofText {s t : String} (h : s < t) : ofText s < ofText t := by
  rw [String.lt_iff_toList_lt] at h
  rw [ofText_eq, ofText_eq]
  generalize s.toList = l at h ⊢
  generalize t.toList = m at h ⊢
  induction l generalizing m with
  | nil =>
    cases m with
    | nil => contradiction
    | cons d m =>
      rw [List.flatMap_cons]
      cases hbytes : String.utf8EncodeChar d with
      | nil => exact absurd hbytes String.utf8EncodeChar_ne_nil
      | cons b rest => exact List.nil_lt_cons ..
  | cons c l ih =>
    cases m with
    | nil => contradiction
    | cons d m =>
      rw [List.flatMap_cons, List.flatMap_cons]
      rcases List.cons_lt_cons_iff.1 h with hlt | ⟨rfl, hlt⟩
      · exact utf8EncodeChar_append_lt hlt _ _
      · exact List.append_left_lt (ih m hlt)

/-! ### Hexadecimal digits -/

private theorem hexValue?_hexDigit {n : Nat} (h : n < 16) : hexValue? (hexDigit n) = some n := by
  revert n
  decide

private theorem ofHexDigits?_hexDigits (bytes : Bytes) :
    ofHexDigits? (hexDigits bytes) = some bytes := by
  induction bytes with
  | nil => rfl
  | cons b rest ih =>
    have hb := b.toNat_lt
    have hbyte : 16 * (b.toNat / 16) + b.toNat % 16 = b.toNat := by omega
    show ofHexDigits? (_ :: _ :: hexDigits rest) = _
    simp only [ofHexDigits?, hexValue?_hexDigit (show b.toNat / 16 < 16 by omega),
      hexValue?_hexDigit (show b.toNat % 16 < 16 by omega), ih, hbyte, UInt8.ofNat_toNat]

/-- Bytes are read back from their hexadecimal form. -/
@[simp]
theorem ofHex?_toHex (bytes : Bytes) : ofHex? bytes.toHex = some bytes := by
  rw [ofHex?, toHex, String.toList_ofList]
  exact ofHexDigits?_hexDigits bytes

/-! ### Base-256 digits -/

/-- A number that fits a width is read back from its bytes. -/
theorem toNatLE_ofNatLE {width n : Nat} (h : n < 256 ^ width) :
    toNatLE (ofNatLE width n) = n := by
  induction width generalizing n with
  | zero => exact (Nat.lt_one_iff.1 h).symm
  | succ width ih =>
    rw [pow_succ] at h
    rw [ofNatLE, toNatLE, ih (Nat.div_lt_of_lt_mul (by omega)), UInt8.toNat_ofNat']
    omega

theorem toNatLE_lt (bytes : Bytes) : toNatLE bytes < 256 ^ bytes.length := by
  induction bytes with
  | nil => exact Nat.one_pos
  | cons b rest ih =>
    have hb := b.toNat_lt
    rw [toNatLE, List.length_cons, pow_succ]
    omega

/-- Bytes are written again from the number that they spell. -/
theorem ofNatLE_toNatLE (bytes : Bytes) : ofNatLE bytes.length (toNatLE bytes) = bytes := by
  induction bytes with
  | nil => rfl
  | cons b rest ih =>
    have hb := b.toNat_lt
    have hbyte : UInt8.ofNat (b.toNat + 256 * toNatLE rest) = b := by
      rw [← UInt8.toNat_inj, UInt8.toNat_ofNat']
      omega
    have hrest : (b.toNat + 256 * toNatLE rest) / 256 = toNatLE rest := by omega
    rw [List.length_cons, toNatLE, ofNatLE, hbyte, hrest, ih]

/-- The last byte of a number, highest byte first, is the lowest one. -/
private theorem ofNatBE_succ (width n : Nat) :
    ofNatBE (width + 1) n = ofNatBE width (n / 256) ++ [UInt8.ofNat n] :=
  List.reverse_cons ..

/-- Lists of one length are compared at the first place where they differ. -/
theorem compare_append {α : Type} [Ord α] {l₁ l₂ r₁ r₂ : List α} (h : l₁.length = l₂.length) :
    compare (l₁ ++ r₁) (l₂ ++ r₂) = (compare l₁ l₂).then (compare r₁ r₂) := by
  induction l₁ generalizing l₂ with
  | nil =>
    obtain rfl := List.eq_nil_of_length_eq_zero h.symm
    rfl
  | cons a l₁ ih =>
    cases l₂ with
    | nil => simp at h
    | cons b l₂ =>
      rw [List.cons_append, List.cons_append, List.compare_cons_cons, List.compare_cons_cons,
        ih (Nat.succ.inj h), Ordering.then_assoc]

theorem compare_append_left {α : Type} [Ord α] [Std.ReflOrd α] {l r₁ r₂ : List α} :
    compare (l ++ r₁) (l ++ r₂) = compare r₁ r₂ := by
  rw [compare_append rfl, Std.ReflOrd.compare_self]
  rfl

private theorem compare_ofNat (m n : Nat) :
    compare (UInt8.ofNat m) (UInt8.ofNat n) = compare (m % 256) (n % 256) := by
  have hlt : UInt8.ofNat m < UInt8.ofNat n ↔ m % 256 < n % 256 := by
    rw [UInt8.lt_iff_toNat_lt, UInt8.toNat_ofNat', UInt8.toNat_ofNat']
  have heq : UInt8.ofNat m = UInt8.ofNat n ↔ m % 256 = n % 256 := by
    rw [← UInt8.toNat_inj, UInt8.toNat_ofNat', UInt8.toNat_ofNat']
  show compareOfLessAndEq _ _ = compareOfLessAndEq _ _
  simp only [compareOfLessAndEq, hlt, heq]

/-- Numbers are compared by their quotients first. -/
private theorem compare_div_mod (base m n : Nat) :
    (compare (m / base) (n / base)).then (compare (m % base) (n % base)) = compare m n := by
  have hm := Nat.div_add_mod m base
  have hn := Nat.div_add_mod n base
  rcases Nat.lt_trichotomy (m / base) (n / base) with h | h | h
  · rw [Nat.compare_eq_lt.2 h, Nat.compare_eq_lt.2 (Nat.lt_of_div_lt_div h)]
    rfl
  · rw [Nat.compare_eq_eq.2 h, Ordering.eq_then]
    rw [← h] at hn
    rcases Nat.lt_trichotomy (m % base) (n % base) with h' | h' | h'
    · rw [Nat.compare_eq_lt.2 h', Nat.compare_eq_lt.2 (by omega)]
    · rw [Nat.compare_eq_eq.2 h', Nat.compare_eq_eq.2 (by omega)]
    · rw [Nat.compare_eq_gt.2 h', Nat.compare_eq_gt.2 (by omega)]
  · rw [Nat.compare_eq_gt.2 h, Nat.compare_eq_gt.2 (Nat.lt_of_div_lt_div h)]
    rfl

/-- Digits written highest first compare as the numbers do. -/
theorem compare_ofNatBE {width m n : Nat} (hm : m < 256 ^ width) (hn : n < 256 ^ width) :
    compare (ofNatBE width m) (ofNatBE width n) = compare m n := by
  induction width generalizing m n with
  | zero =>
    rw [Nat.lt_one_iff.1 hm, Nat.lt_one_iff.1 hn]
    rfl
  | succ width ih =>
    rw [pow_succ] at hm hn
    rw [ofNatBE_succ, ofNatBE_succ, compare_append (by simp),
      ih (Nat.div_lt_of_lt_mul (by omega)) (Nat.div_lt_of_lt_mul (by omega)),
      List.compare_cons_cons, List.compare_nil_nil, Ordering.then_eq, compare_ofNat]
    exact compare_div_mod 256 m n

/-! ### Parts of known length -/

/-- Numbers of one width are told apart, whatever follows them. -/
theorem ofNatLE_append_inj {width m n : Nat} {rest rest' : Bytes} (hm : m < 256 ^ width)
    (hn : n < 256 ^ width) (h : ofNatLE width m ++ rest = ofNatLE width n ++ rest') :
    m = n ∧ rest = rest' := by
  obtain ⟨hdigits, hrest⟩ := List.append_inj h (by rw [length_ofNatLE, length_ofNatLE])
  refine ⟨?_, hrest⟩
  rw [← toNatLE_ofNatLE hm, hdigits, toNatLE_ofNatLE hn]

/-- A word is written in eight bytes. -/
theorem word_append_inj {a b : UInt64} {rest rest' : Bytes}
    (h : ofNatLE 8 a.toNat ++ rest = ofNatLE 8 b.toNat ++ rest') : a = b ∧ rest = rest' :=
  (ofNatLE_append_inj a.toNat_lt b.toNat_lt h).imp_left UInt64.toNat_inj.1

/-- Texts of one length are told apart, whatever follows them. -/
theorem text_append_inj {s t : String} {rest rest' : Bytes}
    (hlength : (ofText s).length = (ofText t).length) (h : ofText s ++ rest = ofText t ++ rest') :
    s = t ∧ rest = rest' :=
  (List.append_inj h hlength).imp_left fun htext => ofText_injective htext

end Attestation.Bytes

namespace Attestation.FixedBytes

variable {n : Nat}

theorem toBytes_injective : Function.Injective (toBytes : FixedBytes n → Bytes) := fun a b h => by
  cases a
  cases b
  exact (mk.injEq ..).mpr h

/-- A fixed number of bytes is told apart from what follows. -/
theorem toBytes_append_inj {a b : FixedBytes n} {rest rest' : Bytes}
    (h : a.toBytes ++ rest = b.toBytes ++ rest') : a = b ∧ rest = rest' :=
  (List.append_inj h (a.length_eq.trans b.length_eq.symm)).imp_left fun hbytes =>
    toBytes_injective hbytes

end Attestation.FixedBytes
