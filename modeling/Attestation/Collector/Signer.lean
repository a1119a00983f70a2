import Attestation.Claim

/-!
# Signers

A signer holds the key of an attestor and turns snapshots into claims. Equal snapshots give equal
claims, since the nonces of signatures are derived from what is signed.
-/

namespace Attestation

/-- Why a snapshot is not signed. -/
inductive SigningError where
  /-- There is no key, because its store cannot be opened. -/
  | unavailable
  /-- The snapshot has no signable bytes. -/
  | unencodable
deriving DecidableEq

/-- The text of a signing error. -/
def SigningError.message : SigningError → String
  | unavailable => "signing unavailable: keystore cannot be opened"
  | unencodable => s!"snapshot could not be encoded: {Claim.SignerError.unencodable.message}"

/-- The key of an attestor and the id it is registered under. -/
structure ClaimSigner where
  /-- The key. -/
  key : SecretKey
  /-- The id of the attestor. -/
  attestorId : String

/-- The claim to a snapshot. -/
def ClaimSigner.sign (s : ClaimSigner) (snapshot : Snapshot) : Except SigningError Claim :=
  match snapshot.signable? with
  | some message => .ok ⟨snapshot, s.attestorId, s.key.sign message⟩
  | none => .error .unencodable

end Attestation
