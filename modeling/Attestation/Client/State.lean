import Attestation.Client.QuorumPolicy
import Attestation.OrderedMap

/-!
# Client states

What a client trusts about its chain: the attestors and the policy they vote under, the latest
trusted height with its root, and how far back trusted roots are kept. Trusted roots are kept as
consensus states by height.
-/

namespace Attestation

/-- Whether a client accepts updates. -/
inductive Status where
  | active
  /-- A conflict was seen at the height; only a recovery leads out of this state. -/
  | frozen (height : UInt64)
deriving DecidableEq

/-- A trusted root. -/
structure ConsensusState where
  /-- The height of the chain. -/
  height : UInt64
  /-- The root attested at that height. -/
  root : Digest
  /-- The time of the block in seconds. -/
  timestamp : UInt64
deriving DecidableEq

/-- The trusted roots by height. -/
abbrev History := OrderedMap UInt64 ConsensusState

/-- What is wrong with a client state. -/
inductive ClientStateError where
  | emptyId
  | separatorInId (clientId : String)
  | policy (cause : QuorumPolicyError)
  /-- The initial consensus state is not the latest trusted root. -/
  | initialMismatch
  /-- A trusted height comes without its consensus state. -/
  | initialMissing
  /-- A new client is frozen. -/
  | frozenAtCreation
  /-- A substitute state is frozen or for another client or chain. -/
  | badSubstitute
deriving DecidableEq

/-- Everything a client trusts about its chain. -/
structure ClientState where
  /-- The id the client is stored under. -/
  clientId : String
  /-- The chain being tracked. -/
  chainId : String
  /-- The registered attestors. -/
  attestors : AttestorSet
  /-- The weight that claims must reach. -/
  policy : QuorumPolicy
  /-- The highest height with a trusted root. -/
  latestHeight : UInt64
  /-- The root trusted at the latest height. -/
  latestRoot : Digest
  /-- Whether the client is active. -/
  status : Status
  /-- How many heights below the latest one are kept. -/
  historyWindow : UInt64
deriving DecidableEq

namespace ClientState

/-- A state is valid if its ids are not empty, its client id holds no separator of store keys and
its policy fits its attestors. -/
def validate (s : ClientState) : Except ClientStateError Unit :=
  if s.clientId = "" ∨ s.chainId = "" then .error .emptyId
  else if s.clientId.toList.contains '/' then .error (.separatorInId s.clientId)
  else (s.policy.validate s.attestors).mapError .policy

/-- An active state with nothing trusted yet. -/
def fresh (clientId chainId : String) (attestors : AttestorSet) (policy : QuorumPolicy)
    (historyWindow : UInt64) : Except ClientStateError ClientState := do
  let s : ClientState := ⟨clientId, chainId, attestors, policy, 0, FixedBytes.replicate 32 0,
    .active, historyWindow⟩
  s.validate
  return s

/-- The height of the conflict that froze the client, if it is frozen. -/
def frozenAt? (s : ClientState) : Option UInt64 :=
  match s.status with
  | .active => none
  | .frozen height => some height

/-- Whether the client is frozen. -/
def isFrozen (s : ClientState) : Bool := s.frozenAt?.isSome

/-- Freezes the state; an earlier freeze keeps its height. -/
def freeze (s : ClientState) (height : UInt64) : ClientState :=
  if s.isFrozen then s else { s with status := .frozen height }

/-- The lowest height whose root is still kept. -/
def oldestRetained (s : ClientState) : UInt64 := Word.sub s.latestHeight s.historyWindow

/-- Drops the roots below the window. -/
def prune (s : ClientState) (history : History) : History :=
  history.filterKeys fun height => s.oldestRetained ≤ height

/-- The heights that pruning drops. -/
def prunedHeights (s : ClientState) (history : History) : List UInt64 :=
  history.keys.filter fun height => height < s.oldestRetained

end ClientState

namespace ClientStateError

/-- The text of the error. -/
def message : ClientStateError → String
  | emptyId => "invalid client state: client id and chain id must not be empty"
  | separatorInId id => s!"invalid client state: client id `{id}` must not contain `/`"
  | policy cause => cause.message
  | initialMismatch =>
    "invalid client state: initial consensus state must match the latest trusted root"
  | initialMissing =>
    "invalid client state: a trusted height requires an initial consensus state"
  | frozenAtCreation => "invalid client state: new clients must be active"
  | badSubstitute =>
    "invalid client state: substitute must be active and track the same client and chain"

end ClientStateError

end Attestation
