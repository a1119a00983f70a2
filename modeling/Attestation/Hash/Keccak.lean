import Attestation.Bytes

/-!
# Keccak-256

The sponge over the 1600 bit permutation with a rate of 136 bytes and the older padding, which
starts with a single one bit. Lane `(x, y)` stands at place `x + 5 y` of the state.
-/

namespace Attestation.Keccak

/-- Twenty-five lanes of 64 bits. -/
abbrev State := Vector UInt64 25

/-- The lane in column `x` and row `y`, both taken modulo five. -/
def State.lane (s : State) (x y : Nat) : UInt64 := s.get ⟨x % 5 + 5 * (y % 5), by omega⟩

/-- The state whose lane `(x, y)` is `f x y`. -/
def State.ofLanes (f : Nat → Nat → UInt64) : State :=
  Vector.ofFn fun i : Fin 25 => f (i.val % 5) (i.val / 5)

/-- Rotation to the left by `k` bits, for `k < 64`. -/
def rotateLeft (x k : UInt64) : UInt64 := if k = 0 then x else (x <<< k) ||| (x >>> (64 - k))

/-- How far each lane is rotated. -/
def rotations : Vector UInt64 25 := #v[
  0, 1, 62, 28, 27,
  36, 44, 6, 55, 20,
  3, 10, 43, 25, 39,
  41, 45, 15, 21, 8,
  18, 2, 61, 56, 14]

/-- What each of the twenty-four rounds adds to lane `(0, 0)`. -/
def roundConstants : List UInt64 := [
  0x0000000000000001, 0x0000000000008082, 0x800000000000808a, 0x8000000080008000,
  0x000000000000808b, 0x0000000080000001, 0x8000000080008081, 0x8000000000008009,
  0x000000000000008a, 0x0000000000000088, 0x0000000080008009, 0x000000008000000a,
  0x000000008000808b, 0x800000000000008b, 0x8000000000008089, 0x8000000000008003,
  0x8000000000008002, 0x8000000000000080, 0x000000000000800a, 0x800000008000000a,
  0x8000000080008081, 0x8000000000008080, 0x0000000080000001, 0x8000000080008008]

/-- One round: column parities are mixed in, lanes are rotated and moved, rows are combined
nonlinearly, and the round constant is added. -/
def round (s : State) (constant : UInt64) : State :=
  let column := fun x => s.lane x 0 ^^^ s.lane x 1 ^^^ s.lane x 2 ^^^ s.lane x 3 ^^^ s.lane x 4
  let columns : Vector UInt64 5 := Vector.ofFn fun i : Fin 5 => column i.val
  let parity := fun x => columns.get ⟨x % 5, by omega⟩
  let mixed := State.ofLanes fun x y =>
    s.lane x y ^^^ (parity (x + 4) ^^^ rotateLeft (parity (x + 1)) 1)
  let moved := State.ofLanes fun x y =>
    rotateLeft (mixed.lane (x + 3 * y) x) (State.lane rotations (x + 3 * y) x)
  let combined := State.ofLanes fun x y =>
    moved.lane x y ^^^ (~~~(moved.lane (x + 1) y) &&& moved.lane (x + 2) y)
  combined.set 0 (combined.lane 0 0 ^^^ constant)

/-- The permutation of the state. -/
def permute (s : State) : State := roundConstants.foldl round s

/-- The number of bytes absorbed at a time. -/
def rate : Nat := 136

/-- The message followed by a one bit, zeros and a closing one bit, up to a multiple of the rate. -/
def pad (message : Bytes) : Bytes :=
  let missing := rate - message.length % rate
  if missing = 1 then message ++ [0x81]
  else message ++ 0x01 :: List.replicate (missing - 2) 0 ++ [0x80]

/-- Adds one block to the state and permutes it. -/
def absorb (s : State) (block : Bytes) : State :=
  permute <| Vector.ofFn fun i : Fin 25 =>
    s[i] ^^^ UInt64.ofNat (Bytes.toNatLE ((block.drop (8 * i.val)).take 8))

/-- The first `count` blocks of a padded message. -/
def blocks : (count : Nat) → Bytes → List Bytes
  | 0, _ => []
  | count + 1, bytes => bytes.take rate :: blocks count (bytes.drop rate)

/-- The Keccak-256 digest of a message. -/
def hash (message : Bytes) : Digest :=
  let padded := pad message
  let s := (blocks (padded.length / rate) padded).foldl absorb (Vector.replicate 25 0)
  ⟨Bytes.ofNatLE 8 (s.lane 0 0).toNat ++ Bytes.ofNatLE 8 (s.lane 1 0).toNat ++
    Bytes.ofNatLE 8 (s.lane 2 0).toNat ++ Bytes.ofNatLE 8 (s.lane 3 0).toNat, by simp⟩

end Attestation.Keccak
