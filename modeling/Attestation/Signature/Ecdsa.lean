import Attestation.Address
import Attestation.Hash.Sha256
import Attestation.Signature.Curve

/-!
# Recoverable signatures

A signature is 65 bytes: two 32 byte big-endian numbers `r` and `s` and a recovery byte, which
tells the parity of the ordinate of the nonce point. Messages are hashed with SHA-256 before they
are signed, nonces follow RFC 6979, and signing keeps `s` in the lower half of the group. A signer
is known by the address of its public key.
-/

namespace Attestation

open Curve

/-- A secret scalar of the group. -/
structure SecretKey where
  /-- The scalar. -/
  scalar : Nat
  pos : 0 < scalar
  lt_groupOrder : scalar < groupOrder

/-- Reads a secret key from its 32 bytes, of which up to eight leading zeros may be left out. -/
def SecretKey.ofBytes? (bytes : Bytes) : Option SecretKey :=
  if 24 ≤ bytes.length ∧ bytes.length ≤ 32 then
    let scalar := Bytes.toNatBE bytes
    if h : 0 < scalar ∧ scalar < groupOrder then some ⟨scalar, h.1, h.2⟩ else none
  else none

/-- The bytes of a secret key. -/
def SecretKey.toBytes (key : SecretKey) : Bytes := Bytes.ofNatBE 32 key.scalar

/-- The address of a secret key. -/
def SecretKey.address (key : SecretKey) : Address :=
  match (Point.ofScalar key.scalar).toAffine? with
  | some (x, y) => Address.ofPublicKey x y
  | none => FixedBytes.replicate 20 0

/-! ### Nonces -/

/-- The deterministic nonce generator: a key and a chaining value. -/
structure NonceState where
  key : Digest
  value : Digest

namespace NonceState

/-- Mixes seed material into the state; `tag` separates the two mixing steps. -/
def mix (s : NonceState) (tag : UInt8) (seed : Bytes) : NonceState :=
  let key := Sha256.hmac s.key.toBytes (s.value.toBytes ++ tag :: seed)
  ⟨key, Sha256.hmac key.toBytes s.value.toBytes⟩

/-- The state seeded with a secret scalar and a message digest. -/
def seeded (scalar digest : Nat) : NonceState :=
  let seed := Bytes.ofNatBE 32 scalar ++ Bytes.ofNatBE 32 digest
  let start : NonceState := ⟨FixedBytes.replicate 32 0, FixedBytes.replicate 32 1⟩
  (start.mix 0 seed).mix 1 seed

/-- Draws candidates until one is a scalar of the group. A candidate fails with a chance below
`2⁻¹²⁷`, so `attempts` is never used up. -/
def draw : (attempts : Nat) → NonceState → Nat
  | 0, _ => 1
  | attempts + 1, s =>
    let value := Sha256.hmac s.key.toBytes s.value.toBytes
    let candidate := Bytes.toNatBE value.toBytes
    if 0 < candidate ∧ candidate < groupOrder then candidate
    else
      let key := Sha256.hmac s.key.toBytes (value.toBytes ++ [0])
      draw attempts ⟨key, Sha256.hmac key.toBytes value.toBytes⟩

end NonceState

/-! ### Signing -/

/-- The signature of a 32 byte digest. -/
def SecretKey.signDigest (key : SecretKey) (digest : Digest) : Bytes :=
  let z := Bytes.toNatBE digest.toBytes % groupOrder
  let nonce := (NonceState.seeded key.scalar z).draw 64
  match (Point.ofScalar nonce).toAffine? with
  | none => []
  | some (x, y) =>
    let r := x % groupOrder
    let s := inverse nonce groupOrder * (z + r * key.scalar) % groupOrder
    let high := 2 * s > groupOrder
    let odd := (y % 2 == 1) != high
    Bytes.ofNatBE 32 r ++ Bytes.ofNatBE 32 (if high then groupOrder - s else s) ++
      [if odd then 28 else 27]

/-- The signature of a message. -/
def SecretKey.sign (key : SecretKey) (message : Bytes) : Bytes :=
  key.signDigest (Sha256.hash message)

/-! ### Recovery -/

/-- Why no signer can be recovered from signature bytes. -/
inductive SignatureError where
  /-- The signature is not 65 bytes long. -/
  | badLength (got : Nat)
  /-- The recovery byte tells no parity. -/
  | badParity (v : UInt8)
  /-- No public key verifies the numbers. -/
  | unrecoverable
deriving DecidableEq

/-- The text of a signature error. -/
def SignatureError.message : SignatureError → String
  | badLength got => s!"malformed signature: expected 65 bytes, got {got}"
  | badParity v => s!"signature recovery failed: invalid parity: {v}"
  | unrecoverable => "signature recovery failed: signature error"

/-- The parity that a recovery byte tells: 0 and 1, the same plus 27, or from 35 on alternating,
35 being even. -/
def oddOfRecoveryByte? (v : UInt8) : Option Bool :=
  if v = 0 ∨ v = 27 then some false
  else if v = 1 ∨ v = 28 then some true
  else if v ≥ 35 then some (v % 2 == 0)
  else none

/-- The address whose key signed a digest with the numbers `r` and `s`. A number `s` in the upper
half is replaced by its negative, which flips the parity. -/
def recoverKey? (digest : Digest) (r s : Nat) (odd : Bool) : Option Address := do
  let high := 2 * s > groupOrder
  let odd := odd != high
  let s := if high then groupOrder - s else s
  if r = 0 ∨ s = 0 ∨ groupOrder ≤ r then none
  let nonce ← Point.lift? r odd
  let z := Bytes.toNatBE digest.toBytes % groupOrder
  let w := inverse r groupOrder
  let i := (groupOrder - z) * w % groupOrder
  let (x, y) ← (Point.combination i Point.generator (s * w % groupOrder) nonce).toAffine?
  return Address.ofPublicKey x y

/-- The address that signed a digest. -/
def recoverFromDigest (digest : Digest) (signature : Bytes) : Except SignatureError Address :=
  if signature.length ≠ 65 then .error (.badLength signature.length)
  else
    let v := signature.getD 64 0
    match oddOfRecoveryByte? v with
    | none => .error (.badParity v)
    | some odd =>
      let r := Bytes.toNatBE (signature.take 32)
      let s := Bytes.toNatBE ((signature.drop 32).take 32)
      match recoverKey? digest r s odd with
      | none => .error .unrecoverable
      | some address => .ok address

/-- The address that signed a message. -/
def recoverAddress (message signature : Bytes) : Except SignatureError Address :=
  recoverFromDigest (Sha256.hash message) signature

/-- Whether a message was signed by the holder of an address. -/
def verifySignature (address : Address) (message signature : Bytes) : Bool :=
  match recoverAddress message signature with
  | .ok signer => signer == address
  | .error _ => false

end Attestation
