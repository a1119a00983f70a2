import Attestation.Client.Error
import Attestation.Client.Tally

/-!
# Aggregation of claims

The verdict on a batch is read off its tally: the lowest fresh height in conflict, or else the
highest fresh height with a quorum, or else a confirmation of what is trusted already. A height is
in conflict if two roots have a quorum there, or one has and some attestor signed two roots. Only
the error for a batch without a verdict looks at the claims that are not usable.
-/

namespace Attestation

/-! ### Quorums -/

/-- Votes that reach the threshold. -/
structure Quorum where
  /-- What they are for. -/
  subject : Subject
  /-- The votes. -/
  votes : Votes
  /-- Their weight. -/
  weight : UInt64
deriving DecidableEq

/-- The weight of the attestors that voted. -/
def ClientState.weigh (s : ClientState) (votes : Votes) : UInt64 :=
  s.policy.weightOfAll (votes.keys.filterMap s.attestors.find?)

namespace Tally

/-- The quorums above the trusted height, by height and in the order of their roots. -/
def quorums (t : Tally) (s : ClientState) : OrderedMap UInt64 (List Quorum) :=
  let weighed := t.freshVotes.toList.map fun (k, votes) => Quorum.mk k votes (s.weigh votes)
  .foldBy (·.subject.height) (fun found q => found.getD [] ++ [q])
    (weighed.filter fun q => s.policy.isMet q.weight)

/-- The greatest weight behind a root above the trusted height. -/
def bestWeight (t : Tally) (s : ClientState) : UInt64 :=
  Word.maximum (t.freshVotes.values.map s.weigh)

/-- The heights above the trusted one at which some attestor signed more than one root. -/
def equivocated (t : Tally) (s : ClientState) : List UInt64 :=
  sortedSet <| (t.signed.toList.filter fun (slot, roots) =>
    1 < roots.length ∧ s.latestHeight < slot.height).map (·.1.height)

/-- Whether the votes for the latest trusted root reach the threshold again. -/
def confirms (t : Tally) (s : ClientState) : Bool :=
  match t.staleVotes.get? ⟨s.chainId, s.latestHeight, s.latestRoot⟩ with
  | some votes => s.policy.isMet (s.weigh votes)
  | none => false

/-- Why a batch of so many claims is refused if it has no verdict. -/
def refusal (t : Tally) (s : ClientState) (count : Nat) : ClientError :=
  if 0 < t.fresh then .quorumNotMet (t.bestWeight s) s.policy.threshold
  else if t.strangers = count then .unauthorizedAttestors
  else if 0 < t.stale then .staleClaims s.latestHeight
  else if 0 < t.forged then .invalidSignatures
  else match t.otherChain with
    | some chainId => .chainMismatch s.chainId chainId
    | none => .quorumNotMet (t.bestWeight s) s.policy.threshold

end Tally

/-! ### Verdicts -/

/-- A root that reached a quorum. -/
structure AcceptedUpdate where
  /-- The accepted height. -/
  height : UInt64
  /-- The accepted root. -/
  root : Digest
  /-- The earliest block time among the claims for it. -/
  timestamp : UInt64
  /-- The weight behind it. -/
  weight : UInt64
  /-- The ids of the attestors who signed it, in order. -/
  attestors : List String
deriving DecidableEq

/-- What a batch of claims amounts to, if it is not refused. -/
inductive Verdict where
  /-- A new height has a quorum. -/
  | accepted (update : AcceptedUpdate)
  /-- The claims confirm the latest trusted root. -/
  | alreadyTrusted
deriving DecidableEq

/-- The update to the root of a quorum. -/
def Quorum.update (q : Quorum) : AcceptedUpdate where
  height := q.subject.height
  root := q.subject.root
  timestamp := Word.minimum q.votes.values
  weight := q.weight
  attestors := q.votes.keys

/-- The verdict on a batch of claims, or why it is refused. -/
def aggregate (recover : Recovery) (s : ClientState) (batch : List Claim) :
    Except ClientError Verdict :=
  if batch = [] then .error .noClaims
  else
    let t := Tally.ofBatch recover s batch
    let quorums := t.quorums s
    let equivocated := t.equivocated s
    match quorums.toList.find? fun (height, found) =>
        1 < found.length ∨ equivocated.contains height with
    | some (height, _) => .error (.conflictingQuorum height)
    | none =>
      match quorums.toList.getLast? with
      | some (_, q :: _) => .ok (.accepted q.update)
      | _ =>
        if t.confirms s then .ok .alreadyTrusted
        else .error (t.refusal s batch.length)

/-- The height of a conflict that a batch of claims proves. -/
def conflictingQuorum? (recover : Recovery) (s : ClientState) (batch : List Claim) :
    Option UInt64 :=
  match aggregate recover s batch with
  | .error (.conflictingQuorum height) => some height
  | _ => none

end Attestation
