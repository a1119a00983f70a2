import Attestation.Bytes

/-!
# Packet commitments

A chain stores a 32 byte commitment per packet under a key. A packet is known by the digest of that
key, its path. Packets are ordered by path and then by commitment.
-/

namespace Attestation

/-- A packet commitment under its path. -/
structure Packet where
  /-- Digest of the key the commitment is stored under. -/
  path : Digest
  /-- The committed value. -/
  commitment : Digest
deriving DecidableEq

namespace Packet

instance : Ord Packet := ⟨compareLex (compareOn path) (compareOn commitment)⟩

instance : Std.TransOrd Packet :=
  inferInstanceAs (Std.TransCmp (compareLex (compareOn path) (compareOn commitment)))

instance : Std.LawfulEqOrd Packet where
  compare_self {a} := by
    show (compare a.path a.path).then (compare a.commitment a.commitment) = .eq
    rw [Std.ReflOrd.compare_self, Std.ReflOrd.compare_self]
    rfl
  eq_of_compare {a b} h := by
    have h : (compare a.path b.path).then (compare a.commitment b.commitment) = .eq := h
    obtain ⟨h₁, h₂⟩ := Ordering.then_eq_eq.1 h
    cases a; cases b
    rw [mk.injEq]
    exact ⟨Std.LawfulEqOrd.eq_of_compare h₁, Std.LawfulEqOrd.eq_of_compare h₂⟩

/-- Why a stored entry is no packet: its value has another length than 32 bytes. -/
structure LengthError where
  /-- The length of the value. -/
  got : Nat
deriving DecidableEq

/-- The text of a length error. -/
def LengthError.message (e : LengthError) : String :=
  s!"commitment must be 32 bytes, got {e.got}"

/-- The packet of an entry of the chain's store. -/
def ofEntry (hash : Bytes → Digest) (key value : Bytes) : Except LengthError Packet :=
  match FixedBytes.ofBytes? 32 value with
  | some commitment => .ok ⟨hash key, commitment⟩
  | none => .error ⟨value.length⟩

end Packet

end Attestation
