import Attestation.Collector.History
import Attestation.Collector.Signer
import Attestation.Source.Error

/-!
# Collecting claims

A claim collector turns what is observed of a chain into signed claims. It signs a height only if
it is above all heights signed before, so that it never signs two roots at one height, and it halts
for good when it sees another root at the height it signed last. How snapshots are signed is a
parameter.
-/

namespace Attestation

/-- Where a collector stands. -/
inductive Phase where
  | idle
  /-- An observation is under way. -/
  | collecting
  /-- Another root was seen at a signed height. -/
  | halted (height : UInt64)
deriving DecidableEq

/-- What a collection came to. -/
inductive Collected where
  | signed (claim : Claim)
  /-- The root at the height was signed before. -/
  | unchanged (height : UInt64)
  /-- The chain went back behind what was signed. -/
  | skipped (observed latest : UInt64)
deriving DecidableEq

/-- Why a collection failed, or a collector was not found. -/
inductive CollectionError where
  | source (cause : SourceError)
  | signing (cause : SigningError)
  /-- Another root was signed at the height. -/
  | contradiction (chainId : String) (height : UInt64) (signed observed : Digest)
  | halted (chainId : String)
  | unknownChain (chainId : String)
deriving DecidableEq

namespace CollectionError

/-- The text of the error. -/
def message : CollectionError → String
  | source cause => cause.message
  | signing cause => cause.message
  | contradiction chainId height signed observed =>
    s!"chain `{chainId}` reported root {observed.toHex} at height {height}, previously " ++
      signed.toHex
  | halted chainId => s!"chain `{chainId}` is halted after a consistency violation"
  | unknownChain chainId => s!"chain `{chainId}` is not configured"

/-- The part of the system the error belongs to. -/
def category : CollectionError → ErrorCategory
  | source _ | signing _ => .transient
  | contradiction .. | halted _ => .integrity
  | unknownChain _ => .configuration

end CollectionError

/-- How often a collector signed, failed and halted. -/
structure CollectionCounts where
  /-- Claims signed. -/
  signed : Nat := 0
  /-- Observations and signings that failed. -/
  failed : Nat := 0
  /-- Contradictions seen. -/
  halted : Nat := 0
deriving DecidableEq

/-- What collects the claims of a chain. -/
structure ClaimCollector where
  /-- The chain. -/
  chainId : String
  /-- Where the collector stands. -/
  phase : Phase := .idle
  /-- The claim signed last. -/
  latest : Option Claim := none
  /-- The newest claims. -/
  history : ClaimHistory
  /-- What happened so far. -/
  counts : CollectionCounts := {}
deriving DecidableEq

namespace ClaimCollector

/-- The collector of a chain that has seen nothing. -/
def new (chainId : String) (historySize : Nat) : ClaimCollector :=
  { chainId, history := .empty historySize }

/-- Whether the collector has halted. -/
def isHalted (c : ClaimCollector) : Bool := c.phase matches .halted _

/-- The height signed last. -/
def latestHeight? (c : ClaimCollector) : Option UInt64 := c.latest.map (·.snapshot.height)

/-- The collector while an observation is under way. -/
def start (c : ClaimCollector) : ClaimCollector := { c with phase := .collecting }

/-- The collector after a failure. -/
def fail (c : ClaimCollector) : ClaimCollector :=
  { c with phase := .idle, counts := { c.counts with failed := c.counts.failed + 1 } }

/-- The collector after it signed a claim. -/
def publish (c : ClaimCollector) (claim : Claim) : ClaimCollector :=
  { c with
    phase := .idle
    latest := some claim
    history := c.history.push claim
    counts := { c.counts with signed := c.counts.signed + 1 } }

/-- The collector after it saw another root at a signed height. -/
def halt (c : ClaimCollector) (height : UInt64) : ClaimCollector :=
  { c with phase := .halted height, counts := { c.counts with halted := c.counts.halted + 1 } }

/-- Signs a snapshot and publishes the claim. -/
def attest (sign : Snapshot → Except SigningError Claim) (c : ClaimCollector)
    (snapshot : Snapshot) : ClaimCollector × Except CollectionError Collected :=
  match sign snapshot with
  | .ok claim => (c.publish claim, .ok (.signed claim))
  | .error cause => (c.fail, .error (.signing cause))

/-- Ends a collection with what was observed. -/
def finish (sign : Snapshot → Except SigningError Claim) (c : ClaimCollector)
    (seen : Except SourceError Snapshot) : ClaimCollector × Except CollectionError Collected :=
  match seen with
  | .error cause => (c.fail, .error (.source cause))
  | .ok snapshot =>
    match c.latest with
    | none => c.attest sign snapshot
    | some latest =>
      let signed := latest.snapshot
      if snapshot.height < signed.height then
        ({ c with phase := .idle }, .ok (.skipped snapshot.height signed.height))
      else if snapshot.height = signed.height then
        if snapshot.root = signed.root then
          ({ c with phase := .idle }, .ok (.unchanged snapshot.height))
        else
          (c.halt snapshot.height,
            .error (.contradiction c.chainId snapshot.height signed.root snapshot.root))
      else c.attest sign snapshot

/-- One collection. A collector that has halted looks at nothing. -/
def collect (sign : Snapshot → Except SigningError Claim) (c : ClaimCollector)
    (seen : Except SourceError Snapshot) : ClaimCollector × Except CollectionError Collected :=
  if c.isHalted then (c, .error (.halted c.chainId)) else c.start.finish sign seen

end ClaimCollector

end Attestation
