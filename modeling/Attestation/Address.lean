import Attestation.Hash.Keccak

/-!
# Addresses

An address is the last twenty bytes of the Keccak-256 digest of a public key. Its display form
carries a checksum in the case of its letters.
-/

namespace Attestation.Address

/-- The address of a public key: the last twenty bytes of the digest of its coordinates. -/
def ofPublicKey (x y : Nat) : Address :=
  let digest := Keccak.hash (Bytes.ofNatBE 32 x ++ Bytes.ofNatBE 32 y)
  ⟨digest.toBytes.drop 12, by simp [digest.length_eq]⟩

/-- An address in mixed case: a letter is upper case where the digest of the lower-case digits has
a digit of at least eight. -/
def checksummed (address : Address) : String :=
  let digits := Bytes.hexDigits address.toBytes
  let marks := (Keccak.hash (digits.map fun c => UInt8.ofNat c.toNat)).toBytes.flatMap fun b =>
    [b.toNat / 16, b.toNat % 16]
  "0x" ++ String.ofList ((digits.zip marks).map fun (c, mark) => if mark ≥ 8 then c.toUpper else c)

end Attestation.Address
