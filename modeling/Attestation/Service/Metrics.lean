import Attestation.Collector.Claims
import Attestation.Text.Double

/-!
# Metrics

What the collectors did is told as text: families of samples, one sample per chain, each with the
chain as its label. A chain has a sample only where something happened, and a family without
samples is left out. Values are written as doubles.
-/

namespace Attestation.Metrics

/-- What the samples of a family mean. -/
inductive Kind where
  /-- A number that only grows. -/
  | counter
  | gauge
deriving DecidableEq

/-- The name of a kind. -/
def Kind.name : Kind → String
  | counter => "counter"
  | gauge => "gauge"

/-- A family of samples. -/
structure Family where
  /-- The name of its samples. -/
  name : String
  /-- What they tell. -/
  help : String
  /-- What their values mean. -/
  kind : Kind
  /-- The sample of a collector. -/
  sample? : ClaimCollector → Option Nat

/-- A count, once there is something to count. -/
def counted (n : Nat) : Option Nat := if n = 0 then none else some n

/-- The greatest value of a gauge. -/
def maxGauge : Nat := 9223372036854775807

/-- The families in the order of their names. -/
def families : List Family := [
  ⟨"pessimist_claims_produced_total", "Signed claims produced", .counter,
    fun c => counted c.counts.signed⟩,
  ⟨"pessimist_collection_failures_total", "Failed snapshot collections or signings", .counter,
    fun c => counted c.counts.failed⟩,
  ⟨"pessimist_consistency_violations_total",
    "Differing roots observed at an already signed height", .counter,
    fun c => counted c.counts.halted⟩,
  ⟨"pessimist_latest_attested_height", "Height of the latest signed claim", .gauge,
    fun c => c.latestHeight?.map fun h => min h.toNat maxGauge⟩]

/-- A label value, in which a backslash, a quote and a line break are escaped. -/
def escapeLabel (label : String) : String :=
  String.ofList (label.toList.flatMap fun
    | '\\' => ['\\', '\\']
    | '"' => ['\\', '"']
    | '\n' => ['\\', 'n']
    | c => [c])

/-- The line of a sample. -/
def sampleLine (name chainId : String) (value : Nat) : String :=
  name ++ "\x7bchain_id=\"" ++ escapeLabel chainId ++ "\"\x7d " ++ Double.written value ++ "\n"

/-- The text of a family. -/
def Family.text (f : Family) (collectors : List ClaimCollector) : String :=
  let lines := collectors.filterMap fun c => (f.sample? c).map (sampleLine f.name c.chainId)
  if lines = [] then ""
  else s!"# HELP {f.name} {f.help}\n# TYPE {f.name} {f.kind.name}\n" ++ String.join lines

/-- The text of all metrics. -/
def text (collectors : List ClaimCollector) : String :=
  String.join (families.map (·.text collectors))

end Attestation.Metrics
