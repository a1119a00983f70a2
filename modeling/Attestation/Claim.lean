import Attestation.Snapshot
import Attestation.Signature.Ecdsa

/-!
# Claims

A claim is a snapshot signed under an attestor's id. Who signed it is decided by a recovery
function on message and signature, which stays a parameter.
-/

namespace Attestation

/-- A function that recovers the signing address from a message and a signature. -/
abbrev Recovery := Bytes → Bytes → Except SignatureError Address

/-- A snapshot signed by one attestor. -/
structure Claim where
  /-- What the attestor observed. -/
  snapshot : Snapshot
  /-- The id the attestor is registered under. -/
  attestorId : String
  /-- The signature over the snapshot. -/
  signature : Bytes
deriving DecidableEq

namespace Claim

/-- Why a claim has no signer. -/
inductive SignerError where
  /-- The snapshot has no signable bytes. -/
  | unencodable
  /-- No signer can be recovered from the signature. -/
  | signature (cause : SignatureError)
deriving DecidableEq

/-- The text of a signer error. -/
def SignerError.message : SignerError → String
  | unencodable => "encoding failed: chain id too long"
  | signature cause => s!"invalid claim signature: {cause.message}"

/-- The address that signed the claim. -/
def signer (recover : Recovery) (c : Claim) : Except SignerError Address :=
  match c.snapshot.signable? with
  | none => .error .unencodable
  | some message => (recover message c.signature).mapError .signature

/-- Whether the claim was signed by an address. -/
def isSignedBy (recover : Recovery) (c : Claim) (address : Address) : Bool :=
  match c.signer recover with
  | .ok signer => signer == address
  | .error _ => false

end Claim

end Attestation
