import Attestation.Source.Observation
import Attestation.Wire.Messages

/-!
# Collecting proofs

A proof collector publishes the bundle of membership proofs over the highest height it has seen.
The first observation of a height counts.
-/

namespace Attestation

/-- Why proofs are not collected or not found. -/
inductive ProvingError where
  | source (cause : SourceError)
  | unknownChain (chainId : String)
  /-- The text is no path of a packet. -/
  | invalidPath (text : String)
deriving DecidableEq

/-- The text of a proving error. -/
def ProvingError.message : ProvingError → String
  | source cause => cause.message
  | unknownChain chainId => s!"chain `{chainId}` is not configured"
  | invalidPath text => s!"invalid packet path `{text}`"

/-- What collects the proofs of a chain. -/
structure ProofCollector where
  /-- The chain. -/
  chainId : String
  /-- The published bundle. -/
  latest : Option ProofBundle := none
deriving DecidableEq

namespace ProofCollector

/-- The bundle over an observation. -/
def bundleOf (hash : Bytes → Digest) (chainId : String) (o : Observation) : ProofBundle :=
  .ofTree hash chainId o.height (.ofList o.packets)

/-- One collection: the height of the bundle that is published afterwards. -/
def collect (hash : Bytes → Digest) (c : ProofCollector) (seen : Except SourceError Observation) :
    ProofCollector × Except ProvingError UInt64 :=
  match seen with
  | .error cause => (c, .error (.source cause))
  | .ok o =>
    match c.latest with
    | none => ({ c with latest := some (bundleOf hash c.chainId o) }, .ok o.height)
    | some latest =>
      if o.height ≤ latest.height then (c, .ok latest.height)
      else ({ c with latest := some (bundleOf hash c.chainId o) }, .ok o.height)

/-- The written form of the published bundle, empty if there is none. -/
def written (c : ProofCollector) : Bytes :=
  match c.latest with
  | some bundle => Codec.json.encode ProofBundle.wire bundle
  | none => []

/-- The proof of the packet under a path. -/
def proofFor? (c : ProofCollector) (path : Digest) : Option MembershipProof :=
  match c.latest with
  | some bundle => bundle.proofFor? path
  | none => none

end ProofCollector

end Attestation
