/-!
# Byte strings

Byte strings are lists of bytes. This module holds their text forms (UTF-8 and hexadecimal), the
little- and big-endian forms of numbers, and byte strings of a fixed length, which compare
lexicographically.
-/

namespace Attestation

/-- A byte string. -/
abbrev Bytes := List UInt8

namespace Bytes

/-! ### Text -/

/-- The UTF-8 bytes of a text. -/
def ofText (text : String) : Bytes := text.toByteArray.data.toList

/-- The text that the bytes spell in UTF-8, if they are well formed. -/
def toText? (bytes : Bytes) : Option String := String.fromUTF8? ⟨bytes.toArray⟩

/-! ### Hexadecimal -/

/-- The lower-case hexadecimal digit of a number below sixteen. -/
def hexDigit (value : Nat) : Char :=
  if value < 10 then Char.ofNat (48 + value) else Char.ofNat (87 + value)

/-- Two lower-case digits per byte, high half first. -/
def hexDigits (bytes : Bytes) : List Char :=
  bytes.flatMap fun b => [hexDigit (b.toNat / 16), hexDigit (b.toNat % 16)]

/-- The written form of a byte string: `0x` and two lower-case digits per byte. -/
def toHex (bytes : Bytes) : String := String.ofList ('0' :: 'x' :: hexDigits bytes)

/-- The value of a hexadecimal digit of either case. -/
def hexValue? (c : Char) : Option Nat :=
  if '0' ≤ c ∧ c ≤ '9' then some (c.toNat - 48)
  else if 'a' ≤ c ∧ c ≤ 'f' then some (c.toNat - 87)
  else if 'A' ≤ c ∧ c ≤ 'F' then some (c.toNat - 55)
  else none

/-- Reads two digits per byte. An odd number of digits is refused. -/
def ofHexDigits? : List Char → Option Bytes
  | [] => some []
  | [_] => none
  | high :: low :: rest =>
    match hexValue? high, hexValue? low, ofHexDigits? rest with
    | some h, some l, some bytes => some (UInt8.ofNat (16 * h + l) :: bytes)
    | _, _, _ => none

/-- Reads hexadecimal digits with an optional marker `0x` or `0X` in front. -/
def ofHex? (text : String) : Option Bytes :=
  match text.toList with
  | '0' :: 'x' :: digits => ofHexDigits? digits
  | '0' :: 'X' :: digits => ofHexDigits? digits
  | digits => ofHexDigits? digits

/-! ### Numbers -/

/-- The `width` lowest base-256 digits of a number, lowest first. -/
def ofNatLE : (width : Nat) → Nat → Bytes
  | 0, _ => []
  | width + 1, n => UInt8.ofNat n :: ofNatLE width (n / 256)

/-- The `width` lowest base-256 digits of a number, highest first. -/
def ofNatBE (width n : Nat) : Bytes := (ofNatLE width n).reverse

/-- The number whose base-256 digits are given lowest first. -/
def toNatLE : Bytes → Nat
  | [] => 0
  | b :: rest => b.toNat + 256 * toNatLE rest

/-- The number whose base-256 digits are given highest first. -/
def toNatBE (bytes : Bytes) : Nat := bytes.foldl (fun n b => 256 * n + b.toNat) 0

@[simp]
theorem length_ofNatLE (width n : Nat) : (ofNatLE width n).length = width := by
  induction width generalizing n with
  | zero => rfl
  | succ width ih => simp [ofNatLE, ih]

@[simp]
theorem length_ofNatBE (width n : Nat) : (ofNatBE width n).length = width := by
  simp [ofNatBE]

end Bytes

/-! ### Fixed lengths -/

/-- A byte string of exactly `n` bytes. -/
structure FixedBytes (n : Nat) where
  /-- The bytes themselves. -/
  toBytes : Bytes
  length_eq : toBytes.length = n
deriving DecidableEq

namespace FixedBytes

variable {n : Nat}

/-- A byte string as one of length `n`, if that is its length. -/
def ofBytes? (n : Nat) (bytes : Bytes) : Option (FixedBytes n) :=
  if h : bytes.length = n then some ⟨bytes, h⟩ else none

/-- The `n` bytes all equal to `b`. -/
def replicate (n : Nat) (b : UInt8) : FixedBytes n := ⟨List.replicate n b, by simp⟩

/-- The big-endian form of a number, cut to `n` bytes. -/
def ofNatBE (n value : Nat) : FixedBytes n := ⟨Bytes.ofNatBE n value, by simp⟩

/-- The written form: `0x` and lower-case digits. -/
def toHex (a : FixedBytes n) : String := a.toBytes.toHex

instance : Ord (FixedBytes n) := ⟨fun a b => compare a.toBytes b.toBytes⟩

theorem compare_def (a b : FixedBytes n) : compare a b = compare a.toBytes b.toBytes := rfl

instance : Std.TransOrd (FixedBytes n) where
  eq_swap {a b} := Std.OrientedOrd.eq_swap (a := a.toBytes) (b := b.toBytes)
  isLE_trans {a b c} h₁ h₂ := by
    rw [compare_def] at h₁ h₂ ⊢
    exact Std.TransOrd.isLE_trans h₁ h₂

instance : Std.LawfulEqOrd (FixedBytes n) where
  compare_self {a} := by rw [compare_def, Std.ReflOrd.compare_self]
  eq_of_compare {a b} h := by
    cases a; cases b
    simp only [mk.injEq]
    exact Std.LawfulEqOrd.eq_of_compare h

end FixedBytes

/-- A 32 byte digest: roots, commitments and packet paths. -/
abbrev Digest := FixedBytes 32

/-- A 20 byte account address. -/
abbrev Address := FixedBytes 20

end Attestation
