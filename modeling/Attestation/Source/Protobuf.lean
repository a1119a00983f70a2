import Attestation.Bytes

/-!
# Protocol buffer messages

A message is a list of numbered fields. A field starts with a key, which joins its number and its
wire type; numbers are written in base 128, lowest digit first, in at most ten bytes. Fields of the
obsolete group type hold further fields up to a closing key of the same number, and are skipped.
-/

namespace Attestation.Protobuf

/-! ### Numbers and keys -/

/-- Reads a base 128 number of at most `places` digits; the tenth digit fills 64 bits. -/
def takeDigits : (places : Nat) → Bytes → Option (Nat × Bytes)
  | 0, _ => none
  | _, [] => none
  | places + 1, b :: rest =>
    if b.toNat < 128 then
      if places = 0 ∧ 1 < b.toNat then none else some (b.toNat, rest)
    else
      match takeDigits places rest with
      | some (high, rest) => some (b.toNat - 128 + 128 * high, rest)
      | none => none

/-- Reads a number of 64 bits. -/
def takeNumber (s : Bytes) : Option (Nat × Bytes) := takeDigits 10 s

theorem length_takeDigits {places n : Nat} {s rest : Bytes}
    (h : takeDigits places s = some (n, rest)) : rest.length < s.length := by
  fun_induction takeDigits places s generalizing n with
  | case1 | case2 => simp at h
  | case3 => simp at h
  | case4 places b tail hb hp =>
    obtain ⟨-, rfl⟩ := by simpa using h
    simp
  | case5 places b tail hb high tail' ht ih =>
    obtain ⟨-, rfl⟩ := by simpa using h
    have := ih ht
    simp only [List.length_cons]
    omega
  | case6 => simp at h

/-- The wire types of fields. -/
inductive WireType where
  | number
  | eightBytes
  | block
  | openGroup
  | closeGroup
  | fourBytes
deriving DecidableEq

/-- The wire type of a code. -/
def WireType.ofNat? : Nat → Option WireType
  | 0 => some number
  | 1 => some eightBytes
  | 2 => some block
  | 3 => some openGroup
  | 4 => some closeGroup
  | 5 => some fourBytes
  | _ => none

/-- Reads a key: a wire type in the three lowest of 32 bits, and a positive field number. -/
def takeKey (s : Bytes) : Option (WireType × Nat × Bytes) :=
  match takeNumber s with
  | none => none
  | some (key, rest) =>
    match WireType.ofNat? (key % 8) with
    | none => none
    | some wireType =>
      if key < UInt32.size ∧ 0 < key / 8 then some (wireType, key / 8, rest) else none

theorem length_takeKey {s rest : Bytes} {wireType : WireType} {number : Nat}
    (h : takeKey s = some (wireType, number, rest)) : rest.length < s.length := by
  unfold takeKey at h
  split at h
  · simp at h
  · rename_i hk
    split at h
    · simp at h
    · split at h
      · simp only [Option.some.injEq, Prod.mk.injEq] at h
        obtain ⟨-, -, rfl⟩ := h
        exact length_takeDigits hk
      · simp at h

/-! ### Values -/

/-- The value of a field. Only blocks of bytes are kept. -/
inductive Value where
  | block (bytes : Bytes)
  | skipped
deriving DecidableEq

/-- Splits off the first `n` bytes. -/
def takeBytes (n : Nat) (s : Bytes) : Option (Bytes × Bytes) :=
  if n ≤ s.length then some (s.take n, s.drop n) else none

/-- Reads the value of a field that is no group. -/
def takeScalar (wireType : WireType) (s : Bytes) : Option (Value × Bytes) :=
  match wireType with
  | .number => (takeNumber s).map fun (_, rest) => (.skipped, rest)
  | .eightBytes => (takeBytes 8 s).map fun (_, rest) => (.skipped, rest)
  | .fourBytes => (takeBytes 4 s).map fun (_, rest) => (.skipped, rest)
  | .block =>
    match takeNumber s with
    | some (n, rest) => (takeBytes n rest).map fun (bytes, rest) => (.block bytes, rest)
    | none => none
  | .openGroup | .closeGroup => none

theorem length_takeBytes {n : Nat} {s bytes rest : Bytes}
    (h : takeBytes n s = some (bytes, rest)) : rest.length ≤ s.length := by
  unfold takeBytes at h
  split at h
  · simp only [Option.some.injEq, Prod.mk.injEq] at h
    obtain ⟨-, rfl⟩ := h
    simp
  · simp at h

theorem length_takeScalar {wireType : WireType} {s rest : Bytes} {value : Value}
    (h : takeScalar wireType s = some (value, rest)) : rest.length ≤ s.length := by
  unfold takeScalar at h
  split at h
  · obtain ⟨⟨n, tail⟩, hn, he⟩ := Option.map_eq_some_iff.1 h
    simp only [Prod.mk.injEq] at he
    exact he.2 ▸ Nat.le_of_lt (length_takeDigits hn)
  · obtain ⟨⟨bytes, tail⟩, hb, he⟩ := Option.map_eq_some_iff.1 h
    simp only [Prod.mk.injEq] at he
    exact he.2 ▸ length_takeBytes hb
  · obtain ⟨⟨bytes, tail⟩, hb, he⟩ := Option.map_eq_some_iff.1 h
    simp only [Prod.mk.injEq] at he
    exact he.2 ▸ length_takeBytes hb
  · split at h
    · rename_i hn
      obtain ⟨⟨bytes, tail⟩, hb, he⟩ := Option.map_eq_some_iff.1 h
      simp only [Prod.mk.injEq] at he
      exact he.2 ▸ Nat.le_trans (length_takeBytes hb) (Nat.le_of_lt (length_takeDigits hn))
    · simp at h
  · simp at h
  · simp at h

/-! ### Groups -/

/-- Skips fields up to the end of the open groups, whose numbers are given innermost first. Fewer
than `depth` groups may be open around a field. -/
def skipGroups (depth : Nat) (groups : List Nat) (s : Bytes) : Option Bytes :=
  match groups with
  | [] => some s
  | number :: outer =>
    match _hk : takeKey s with
    | none => none
    | some (.closeGroup, closed, rest) =>
      if closed = number then skipGroups depth outer rest else none
    | some (.openGroup, opened, rest) =>
      if groups.length < depth then skipGroups depth (opened :: groups) rest else none
    | some (wireType, _, rest) =>
      if groups.length < depth then
        match _hs : takeScalar wireType rest with
        | some (_, rest) => skipGroups depth groups rest
        | none => none
      else none
termination_by s.length
decreasing_by
  · exact length_takeKey _hk
  · exact length_takeKey _hk
  · exact Nat.lt_of_le_of_lt (length_takeScalar _hs) (length_takeKey _hk)

theorem length_skipGroups {depth : Nat} {groups : List Nat} {s rest : Bytes}
    (h : skipGroups depth groups s = some rest) : rest.length ≤ s.length := by
  fun_induction skipGroups depth groups s <;>
    grind [→ length_takeKey, → length_takeScalar]

/-! ### Messages -/

/-- A field of a message. -/
structure Field where
  /-- The number of the field. -/
  number : Nat
  /-- Its value. -/
  value : Value
deriving DecidableEq

/-- Reads a field. -/
def takeField (depth : Nat) (s : Bytes) : Option (Field × Bytes) :=
  match takeKey s with
  | none => none
  | some (.openGroup, number, rest) =>
    (skipGroups depth [number] rest).map fun rest => (⟨number, .skipped⟩, rest)
  | some (wireType, number, rest) =>
    (takeScalar wireType rest).map fun (value, rest) => (⟨number, value⟩, rest)

theorem length_takeField {depth : Nat} {s rest : Bytes} {field : Field}
    (h : takeField depth s = some (field, rest)) : rest.length < s.length := by
  unfold takeField at h
  split at h
  · simp at h
  · rename_i hk
    obtain ⟨tail, ht, he⟩ := Option.map_eq_some_iff.1 h
    simp only [Prod.mk.injEq] at he
    exact he.2 ▸ Nat.lt_of_le_of_lt (length_skipGroups ht) (length_takeKey hk)
  · rename_i hk
    obtain ⟨⟨value, tail⟩, ht, he⟩ := Option.map_eq_some_iff.1 h
    simp only [Prod.mk.injEq] at he
    exact he.2 ▸ Nat.lt_of_le_of_lt (length_takeScalar ht) (length_takeKey hk)

/-- The fields of a message in which groups may be nested `depth` deep. -/
def fields? (depth : Nat) (s : Bytes) : Option (List Field) :=
  if s = [] then some []
  else
    match _h : takeField depth s with
    | some (field, rest) => (fields? depth rest).map (field :: ·)
    | none => none
termination_by s.length
decreasing_by exact length_takeField _h

end Attestation.Protobuf
