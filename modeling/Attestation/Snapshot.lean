import Attestation.Merkle.Tree

/-!
# Snapshots

A snapshot states the commitment root of a chain at a height. Its time is the time of the block, so
that independent observers agree on all of its bytes. What is signed is the length of the chain id
as four bytes, the chain id, the height as eight bytes, the root and the time as eight bytes, all
numbers lowest byte first.
-/

namespace Attestation

/-- The commitment root of a chain at a height. -/
structure Snapshot where
  /-- The chain. -/
  chainId : String
  /-- The height the root was read at. -/
  height : UInt64
  /-- The root over the packets of that height. -/
  root : Digest
  /-- The time of the block in seconds. -/
  collectedAt : UInt64
deriving DecidableEq

namespace Snapshot

/-- The snapshot of a listing of packets. -/
def ofPackets (hash : Bytes → Digest) (chainId : String) (height collectedAt : UInt64)
    (packets : List Packet) : Snapshot :=
  ⟨chainId, height, (CommitmentTree.ofList packets).root hash, collectedAt⟩

/-- The bytes that are signed. There are none if the chain id does not fit its length field. -/
def signable? (s : Snapshot) : Option Bytes :=
  let id := Bytes.ofText s.chainId
  if id.length < UInt32.size then
    some (Bytes.ofNatLE 4 id.length ++ id ++ Bytes.ofNatLE 8 s.height.toNat ++ s.root.toBytes ++
      Bytes.ofNatLE 8 s.collectedAt.toNat)
  else none

end Snapshot

end Attestation
