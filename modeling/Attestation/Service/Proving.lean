import Attestation.Collector.Proofs
import Attestation.Service.Polling

/-!
# The proving service

The proving service collects the membership proofs of several chains and answers questions about
them. Chains are polled whatever comes of it.
-/

namespace Attestation

/-- The chains whose proofs are collected. -/
abbrev ProvingService := Service ProofCollector

/-- How proofs are collected. -/
def ProofCollector.duty (hash : Bytes → Digest) : Duty ProofCollector where
  begin? := some
  finish c seen := ((c.collect hash seen).1, true)

namespace ProvingService

/-- The collector of a chain. -/
def collector (s : ProvingService) (chainId : String) : Except ProvingError ProofCollector :=
  match s.collector? chainId with
  | some c => .ok c
  | none => .error (.unknownChain chainId)

/-- The written form of the published bundle, empty if there is none. -/
def bundle (s : ProvingService) (chainId : String) : Except ProvingError Bytes :=
  (s.collector chainId).map (·.written)

/-- The proof of the packet under a path, which is given in hexadecimal digits. -/
def proof (s : ProvingService) (chainId path : String) :
    Except ProvingError (Option MembershipProof) := do
  let c ← s.collector chainId
  match Bytes.ofHex? path >>= FixedBytes.ofBytes? 32 with
  | some digest => return c.proofFor? digest
  | none => throw (.invalidPath path)

end ProvingService

end Attestation
