import Attestation.Source.BlockTime
import Attestation.Source.Listing
import Attestation.Source.Observation

/-!
# Chains behind a node

A node tells the range of heights it holds, lists the entries under a prefix of a store at a height
and tells the time of a block. Any of its replies may fail to come. Heights of more than 63 bits
cannot be asked for.
-/

namespace Attestation

/-- The range of heights that a node holds. -/
structure NodeStatus where
  /-- The lowest height. -/
  earliest : UInt64
  /-- The latest height. -/
  latest : UInt64
deriving DecidableEq

/-- The reply to a query. -/
structure QueryReply where
  /-- Zero if the query succeeded. -/
  code : Nat
  /-- Why it failed. -/
  log : String
  /-- The listing. -/
  value : Bytes
deriving DecidableEq

/-- The replies of a node. -/
structure ChainNode where
  /-- The range of heights. -/
  status : Option NodeStatus
  /-- The listing of a store under a prefix at a height. -/
  query : (store : String) → (stem : Bytes) → (height : UInt64) → Option QueryReply
  /-- The written time of the block of a height. -/
  blockTime : (height : UInt64) → Option String

/-- The node that never replies. -/
def ChainNode.silent : ChainNode := ⟨none, fun _ _ _ => none, fun _ => none⟩

/-- A chain that is read from a node. -/
structure NodeChain where
  /-- The chain. -/
  chainId : String
  /-- The store that holds the commitments. -/
  store : String := "ibc"
  /-- What the keys of commitments start with. -/
  stem : String := "commitments/"
  /-- The node that is asked. -/
  node : ChainNode

namespace NodeChain

/-- The error of a request that got no answer. -/
def outage (c : NodeChain) (cause : Outage) : SourceError := .unreachable c.chainId cause

/-- A missing reply is an outage. -/
def require {α : Type} (c : NodeChain) (reply : Option α) : Except SourceError α :=
  match reply with
  | some a => .ok a
  | none => .error (c.outage .noReply)

/-- A height that the node can be asked for. -/
def checkHeight (c : NodeChain) (height : UInt64) : Except SourceError Unit :=
  if height < 0x8000000000000000 then .ok () else .error (c.outage .heightOutOfRange)

/-- The latest height. -/
def latestHeight (c : NodeChain) : Except SourceError UInt64 :=
  (c.require c.node.status).map (·.latest)

/-- The packets at a height that the node still holds. -/
def packetsAt (hash : Bytes → Digest) (c : NodeChain) (height : UInt64) :
    Except SourceError (List Packet) := do
  let status ← c.require c.node.status
  if height < status.earliest then throw (.staleHeight height status.earliest)
  c.checkHeight height
  let reply ← c.require (c.node.query s!"store/{c.store}/subspace" (Bytes.ofText c.stem) height)
  if reply.code ≠ 0 then throw (c.outage (.queryFailed reply.log))
  Listing.packets hash reply.value

/-- The time of the block of a height, in seconds. -/
def timestampAt (c : NodeChain) (height : UInt64) : Except SourceError UInt64 := do
  c.checkHeight height
  let seconds ← c.require (c.node.blockTime height >>= BlockTime.ofText?)
  if seconds < 0 then throw (.invalidData .timeBeforeEpoch)
  return UInt64.ofNat seconds.toNat

/-- Observes the chain at a height, or at the latest one. -/
def observe (hash : Bytes → Digest) (c : NodeChain) (target : Option UInt64) :
    Except SourceError Observation := do
  let height ← match target with
    | some height => pure height
    | none => c.latestHeight
  let packets ← c.packetsAt hash height
  return ⟨height, ← c.timestampAt height, packets⟩

end NodeChain

end Attestation
