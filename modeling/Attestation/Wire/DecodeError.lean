import Attestation.Client.AttestorSet

/-!
# Decoding errors

Bytes either do not have the form of the expected type, or they list attestors that form no set.
-/

namespace Attestation

/-- Why bytes are no value of the expected type. -/
inductive DecodeError where
  /-- The bytes do not have the form of the type. -/
  | malformed
  /-- The bytes list attestors that form no set. -/
  | attestors (cause : AttestorSetError)
deriving DecidableEq

/-- The text of a decoding error. -/
def DecodeError.message : DecodeError → String
  | malformed => "decoding failed"
  | attestors cause => s!"decoding failed: {cause.message}"

end Attestation
