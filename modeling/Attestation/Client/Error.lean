import Attestation.Client.State
import Attestation.ErrorCategory
import Attestation.Merkle.Proof
import Attestation.Wire.DecodeError

/-!
# Why a client refuses

The causes for which an update, a query or a call is refused, their texts, the part of the system
each belongs to, and whether submitting again later can help.
-/

namespace Attestation

/-- Why a membership proof is not accepted. -/
inductive ProofDefect where
  /-- The proof was taken at another height. -/
  | otherHeight (proofHeight height : UInt64)
  /-- The proof does not fold to the queried root. -/
  | otherRoot
  /-- The root is neither the latest one nor kept for the height. -/
  | untrustedRoot
  /-- The proof is for another packet. -/
  | otherPacket
  /-- The audit path does not fold at all. -/
  | path (cause : Merkle.PathError)
deriving DecidableEq

/-- What a defect is, in words. -/
def ProofDefect.reason : ProofDefect → String
  | otherHeight proofHeight height => s!"proof is for height {proofHeight}, not {height}"
  | otherRoot => "proof does not fold to the queried root"
  | untrustedRoot => "proof root is not a trusted root"
  | otherPacket => "proof is for a different packet"
  | path cause => cause.message

/-- The calls that are not open to everyone. -/
inductive Privilege where
  | setSubmitters
  | createClients
  | updateClients
  | updateAttestorSets
  | recoverClients
deriving DecidableEq

/-- What a privilege allows, in words. -/
def Privilege.action : Privilege → String
  | setSubmitters => "set submitters"
  | createClients => "create clients"
  | updateClients => "update clients"
  | updateAttestorSets => "update attestor sets"
  | recoverClients => "recover clients"

/-- Why a client refuses. -/
inductive ClientError where
  | noClaims
  | quorumNotMet (bestWeight threshold : UInt64)
  /-- Two roots have a quorum at the height, or one has and an attestor signed two roots there. -/
  | conflictingQuorum (height : UInt64)
  /-- No claim names a registered attestor. -/
  | unauthorizedAttestors
  /-- All valid claims are at or below the trusted height. -/
  | staleClaims (latestHeight : UInt64)
  | invalidSignatures
  | chainMismatch (expected got : String)
  | clientFrozen (height : UInt64)
  | heightNotYetTrusted (height latestHeight : UInt64)
  /-- No root is kept for the height. -/
  | unknownRoot (height : UInt64)
  | rootMismatch (height : UInt64)
  | invalidProof (defect : ProofDefect)
  | invalidAttestorSet (cause : AttestorSetError)
  | invalidClientState (cause : ClientStateError)
  | unauthorized (sender : String) (privilege : Privilege)
  | clientNotFound (clientId : String)
  | clientAlreadyExists (clientId : String)
  | clientNotFrozen (clientId : String)
  | codec (cause : DecodeError)
deriving DecidableEq

namespace ClientError

/-- The text of the error. -/
def message : ClientError → String
  | noClaims => "no claims submitted"
  | quorumNotMet best threshold =>
    s!"quorum not met: best group weight {best}, threshold {threshold}"
  | conflictingQuorum height => s!"conflicting quorum at height {height}"
  | unauthorizedAttestors => "claims from attestors outside the attestor set"
  | staleClaims latest => s!"claims are not newer than trusted height {latest}"
  | invalidSignatures => "claim signature verification failed"
  | chainMismatch expected got => s!"claims for chain `{got}`, client tracks `{expected}`"
  | clientFrozen height => s!"client frozen at height {height}"
  | heightNotYetTrusted height latest => s!"height {height} not yet trusted, latest is {latest}"
  | unknownRoot height => s!"no trusted root retained for height {height}"
  | rootMismatch height => s!"root does not match trusted root at height {height}"
  | invalidProof defect => s!"proof invalid: {defect.reason}"
  | invalidAttestorSet cause => cause.message
  | invalidClientState cause => cause.message
  | unauthorized sender privilege => s!"unauthorized: `{sender}` may not {privilege.action}"
  | clientNotFound id => s!"client `{id}` not found"
  | clientAlreadyExists id => s!"client `{id}` already exists"
  | clientNotFrozen id => s!"client `{id}` is not frozen"
  | codec cause => s!"codec error: {cause.message}"

/-- The part of the system the error belongs to. -/
def category : ClientError → ErrorCategory
  | conflictingQuorum _ | staleClaims _ | invalidSignatures | chainMismatch .. | clientFrozen _ =>
    .integrity
  | unauthorizedAttestors | unauthorized .. => .authorization
  | _ => .verification

/-- Whether submitting again with more claims can succeed. -/
def isRetryable : ClientError → Bool
  | quorumNotMet .. | noClaims => true
  | _ => false

end ClientError

/-- An active client may be asked; a frozen one refuses with the height of its conflict. -/
def ClientState.ensureActive (s : ClientState) : Except ClientError Unit :=
  match s.status with
  | .active => .ok ()
  | .frozen height => .error (.clientFrozen height)

end Attestation
