import Attestation.Snapshot
import Attestation.Source.Error

/-!
# Observations

An observation is what a chain held at a height: the packets in its store and the time of the
block.
-/

namespace Attestation

/-- What a chain held at a height. -/
structure Observation where
  /-- The height. -/
  height : UInt64
  /-- The time of the block in seconds. -/
  timestamp : UInt64
  /-- The packets in the store. -/
  packets : List Packet
deriving DecidableEq

/-- The snapshot of an observation. -/
def Observation.snapshot (hash : Bytes → Digest) (chainId : String) (o : Observation) : Snapshot :=
  .ofPackets hash chainId o.height o.timestamp o.packets

end Attestation
