import Attestation.ErrorCategory
import Attestation.Packet

/-!
# Why a chain cannot be observed

A chain does not answer, no longer holds the height that is asked for, or answers with something
that is no commitment. Each of these may be different at the next attempt.
-/

namespace Attestation

/-- Why a chain does not answer. -/
inductive Outage where
  | refused
  /-- No answer came within a number of milliseconds. -/
  | timedOut (limit : Nat)
  /-- The node of the chain has no such address. -/
  | badAddress
  | noReply
  /-- The node cannot be asked for a height so great. -/
  | heightOutOfRange
  /-- The query was refused for a reason that the node gives. -/
  | queryFailed (log : String)
deriving DecidableEq

/-- What the outage is, in words. -/
def Outage.reason : Outage → String
  | refused => "connection refused"
  | timedOut limit => s!"timed out after {limit}ms"
  | badAddress => "invalid node address"
  | noReply => "no reply"
  | heightOutOfRange => "height out of range"
  | queryFailed log => s!"abci query failed: {log}"

/-- What is wrong with the data of a chain. -/
inductive DataDefect where
  /-- A listing of the store is no message. -/
  | unreadable
  /-- The value under a key has another length than a commitment. -/
  | length (key : String) (cause : Packet.LengthError)
  /-- The time of a block cannot be told in seconds. -/
  | timeBeforeEpoch
deriving DecidableEq

/-- What the defect is, in words. -/
def DataDefect.reason : DataDefect → String
  | unreadable => "failed to decode Protobuf message"
  | length key cause => s!"key {key}: {cause.message}"
  | timeBeforeEpoch => "block time before unix epoch"

/-- Why a chain cannot be observed. -/
inductive SourceError where
  | unreachable (chainId : String) (cause : Outage)
  /-- The node has dropped the height. -/
  | staleHeight (requested earliest : UInt64)
  | invalidData (defect : DataDefect)
deriving DecidableEq

namespace SourceError

/-- The text of the error. -/
def message : SourceError → String
  | unreachable chainId cause => s!"source chain `{chainId}` unreachable: {cause.reason}"
  | staleHeight requested earliest =>
    s!"height {requested} no longer available, earliest retained is {earliest}"
  | invalidData defect => s!"invalid commitment data: {defect.reason}"

/-- Every failure to observe a chain may go away by itself. -/
def category (_ : SourceError) : ErrorCategory := .transient

end SourceError

end Attestation
