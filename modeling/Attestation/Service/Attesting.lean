import Attestation.Collector.Claims
import Attestation.Service.Polling
import Attestation.Source.Observation

/-!
# The attesting service

The attesting service collects the claims of several chains and answers questions about them. A
chain on which a contradiction was seen is not polled any more.
-/

namespace Attestation

/-- The chains whose claims are collected. -/
abbrev AttestingService := Service ClaimCollector

/-- How claims are collected: observations are signed, until a collector halts. A collector that has
halted is not polled any more. -/
def ClaimCollector.duty (hash : Bytes → Digest) (sign : Snapshot → Except SigningError Claim) :
    Duty ClaimCollector where
  begin? c := if c.isHalted then none else some c.start
  finish c seen :=
    let after := (c.finish sign (seen.map (Observation.snapshot hash c.chainId))).1
    (after, !after.isHalted)

/-- A single collection from a simulated chain. -/
structure Collection where
  /-- The chain afterwards. -/
  chain : SimulatedChain
  /-- The collector while it waits for its first answer, or afterwards, if it need not wait. -/
  during : ClaimCollector
  /-- The collector afterwards. -/
  after : ClaimCollector
  /-- What the collection came to. -/
  result : Except CollectionError Collected

/-- Collects from a simulated chain whose calls may take `limit` milliseconds. A collector that has
halted does not call the chain. -/
def ClaimCollector.collectFrom (hash : Bytes → Digest)
    (sign : Snapshot → Except SigningError Claim) (c : ClaimCollector) (limit : Nat)
    (chain : SimulatedChain) : Collection :=
  if c.isHalted then ⟨chain, c, c, .error (.halted c.chainId)⟩
  else
    let (asked, progress) := chain.observe limit 0 none
    let (answered, seen) := asked.complete limit progress
    let (after, result) := c.collect sign (seen.map (Observation.snapshot hash c.chainId))
    let during := match progress with
      | .waiting _ => c.start
      | .finished _ => after
    ⟨answered, during, after, result⟩

/-- What is told about a chain. -/
structure ChainStatus where
  /-- The chain. -/
  chainId : String
  /-- Where its collector stands. -/
  phase : Phase
  /-- The height signed last. -/
  latestHeight : Option UInt64
deriving DecidableEq

/-- The status of a collector. -/
def ClaimCollector.status (c : ClaimCollector) : ChainStatus :=
  ⟨c.chainId, c.phase, c.latestHeight?⟩

namespace AttestingService

/-- The collector of a chain. -/
def collector (s : AttestingService) (chainId : String) : Except CollectionError ClaimCollector :=
  match s.collector? chainId with
  | some c => .ok c
  | none => .error (.unknownChain chainId)

/-- The claim signed last. -/
def latestClaim (s : AttestingService) (chainId : String) :
    Except CollectionError (Option Claim) :=
  (s.collector chainId).map (·.latest)

/-- The claim kept at a height. -/
def claimAt (s : AttestingService) (chainId : String) (height : UInt64) :
    Except CollectionError (Option Claim) :=
  (s.collector chainId).map (·.history.at? height)

/-- The claims kept from a height on. -/
def claimsSince (s : AttestingService) (chainId : String) (height : UInt64) :
    Except CollectionError (List Claim) :=
  (s.collector chainId).map (·.history.since height)

/-- The status of a chain. -/
def status (s : AttestingService) (chainId : String) : Except CollectionError ChainStatus :=
  (s.collector chainId).map (·.status)

/-- The status of every chain. -/
def statuses (s : AttestingService) : List ChainStatus :=
  s.collectors.map ClaimCollector.status

end AttestingService

end Attestation
