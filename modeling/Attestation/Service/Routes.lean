import Attestation.Service.Attesting
import Attestation.Service.Http
import Attestation.Service.Metrics
import Attestation.Service.Proving
import Attestation.Word

/-!
# Routes

The services answer `GET` requests. The attesting service tells its chains, the claims of a chain,
what its collectors do, and metrics; the proving service tells bundles and proofs.
-/

namespace Attestation

open Http

/-- The members that tell a phase. -/
def Phase.members : Phase → List (String × Json)
  | idle => [("phase", .ofString "idle")]
  | collecting => [("phase", .ofString "collecting")]
  | halted height => [("phase", .ofString "halted"), ("height", .ofNat height.toNat)]

/-- The JSON form of a status. -/
def ChainStatus.toJson (s : ChainStatus) : Json :=
  .ofMembers (("chain_id", .ofString s.chainId) :: s.phase.members ++
    [("latest_height", (WireFormat.optional .word).toJson s.latestHeight)])

namespace AttestingService

/-- The reply with a claim, or with the reason why there is none. -/
def claimReply (claim : Except CollectionError (Option Claim)) (missing : String) : Reply :=
  match claim with
  | .ok (some c) => .ofJson 200 (Claim.wire.toJson c)
  | .ok none => .ofError 404 missing
  | .error e => .ofError 404 e.message

/-- The height that a query starts from: the value of `from`, which is given at most once. -/
def startOf? (query : List (String × String)) : Option UInt64 :=
  match query.filter (·.1 = "from") with
  | [] => some 0
  | [(_, value)] => Word.ofText? value
  | _ => none

/-- The reply with the claims from a height on. -/
def claimsReply (s : AttestingService) (chainId : String) (height : UInt64) : Reply :=
  match s.claimsSince chainId height with
  | .ok claims => .ofJson 200 ((WireFormat.list Claim.wire).toJson claims)
  | .error e => .ofError 404 e.message

/-- The reply to a request. -/
def reply (s : AttestingService) (r : Request) : Reply :=
  if r.method ≠ "GET" then .badMethod
  else
    match r.path with
    | ["chains"] => .ofJson 200 (.ofList (s.chainIds.map .ofString))
    | ["status"] => .ofJson 200 (.ofList (s.statuses.map ChainStatus.toJson))
    | ["metrics"] => .ofText 200 (Metrics.text s.collectors)
    | ["claims", ""] => .notFound
    | ["claims", chainId] =>
      match startOf? r.query with
      | some height => s.claimsReply chainId height
      | none => .badQuery
    | ["claims", "", _] => .notFound
    | ["claims", chainId, "latest"] =>
      claimReply (s.latestClaim chainId) s!"no claim signed yet for `{chainId}`"
    | ["claims", chainId, height] =>
      match Word.ofText? height with
      | some height => claimReply (s.claimAt chainId height)
          s!"no claim retained for `{chainId}` at height {height}"
      | none => .notFound
    | _ => .notFound

end AttestingService

namespace ProvingService

/-- The reply with a bundle. -/
def bundleReply (s : ProvingService) (chainId : String) : Reply :=
  match s.bundle chainId with
  | .ok [] => .ofError 404 s!"no proofs collected yet for `{chainId}`"
  | .ok written => ⟨200, some .json, written⟩
  | .error e => .ofError 404 e.message

/-- The reply with a proof. -/
def proofReply (s : ProvingService) (chainId path : String) : Reply :=
  match s.proof chainId path with
  | .ok (some proof) => .ofJson 200 (MembershipProof.wire.toJson proof)
  | .ok none => .ofError 404 s!"no commitment under `{path}` in the latest bundle"
  | .error (.invalidPath path) => .ofError 400 (ProvingError.invalidPath path).message
  | .error e => .ofError 404 e.message

/-- The reply to a request. -/
def reply (s : ProvingService) (r : Request) : Reply :=
  if r.method ≠ "GET" then .badMethod
  else
    match r.path with
    | ["proofs", "", _] => .notFound
    | ["proofs", chainId, "latest"] => s.bundleReply chainId
    | ["proofs", _, ""] => .notFound
    | ["proofs", chainId, path] => s.proofReply chainId path
    | _ => .notFound

end ProvingService

end Attestation
