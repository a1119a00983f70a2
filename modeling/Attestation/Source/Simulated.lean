import Attestation.OrderedMap
import Attestation.Source.Observation

/-!
# Simulated chains

A simulated chain has a latest and an earliest height and the packets of some heights. A number of
calls to it may be set to fail at once; any other call takes a while, and reads the chain when it
ends. Observing the chain asks for the latest height, if none is given, and then for what was held
there; every call is given up after a time limit. Times are milliseconds on a clock of one's own,
so an observation under way is a value, which is resumed when its call is due.
-/

namespace Attestation

/-- A chain that answers as it is told. -/
structure SimulatedChain where
  /-- The chain. -/
  chainId : String
  /-- Its latest height. -/
  latest : UInt64 := 0
  /-- The lowest height it can still tell about. -/
  earliest : UInt64 := 0
  /-- The packets of heights; there are none elsewhere. -/
  listings : OrderedMap UInt64 (List Packet) := .empty
  /-- How many of the next calls fail. -/
  failures : Nat := 0
  /-- How long a call takes. -/
  delay : Nat := 0

/-- What an observation under way has asked for. -/
inductive Question where
  | latestHeight
  | contents (height : UInt64)
deriving DecidableEq

/-- A call under way. -/
structure PendingCall where
  /-- What was asked. -/
  question : Question
  /-- When it was asked. -/
  since : Nat
  /-- When the call ends. -/
  due : Nat
  /-- Whether it ends without an answer. -/
  timesOut : Bool
deriving DecidableEq

/-- How far an observation has come. -/
inductive Progress where
  | waiting (call : PendingCall)
  | finished (result : Except SourceError Observation)

/-- How many answers an observation still waits for. -/
def Progress.remaining : Progress → Nat
  | finished _ => 0
  | waiting ⟨.contents _, _, _, _⟩ => 1
  | waiting ⟨.latestHeight, _, _, _⟩ => 2

theorem Progress.remaining_le (p : Progress) : p.remaining ≤ 2 := by
  obtain ⟨question | height, since, due, timesOut⟩ | result := p <;> simp [remaining]

namespace SimulatedChain

/-- The time of the block of a height: one block every five seconds. -/
def blockTime (height : UInt64) : UInt64 := 1700000000 + 5 * height

/-- What the chain holds at a height. -/
def contents (c : SimulatedChain) (height : UInt64) : Except SourceError Observation :=
  if height < c.earliest then .error (.staleHeight height c.earliest)
  else .ok ⟨height, blockTime height, (c.listings.get? height).getD []⟩

/-- The error of an observation that got no answer. -/
def outage (c : SimulatedChain) (cause : Outage) : Progress :=
  .finished (.error (.unreachable c.chainId cause))

/-- Puts a question at time `now`. The call fails, ends later or ends at once, and then goes on as
`answered` says. -/
def ask (c : SimulatedChain) (limit now : Nat) (question : Question)
    (answered : SimulatedChain × Progress) : SimulatedChain × Progress :=
  if c.failures ≠ 0 then ({ c with failures := c.failures - 1 }, c.outage .refused)
  else if c.delay = 0 then answered
  else if c.delay ≤ limit then (c, .waiting ⟨question, now, now + c.delay, false⟩)
  else if limit = 0 then (c, c.outage (.timedOut limit))
  else (c, .waiting ⟨question, now, now + limit, true⟩)

/-- Observes the chain at a height. -/
def observeAt (c : SimulatedChain) (limit now : Nat) (height : UInt64) :
    SimulatedChain × Progress :=
  c.ask limit now (.contents height) (c, .finished (c.contents height))

/-- Begins an observation at a height, or at the latest one. -/
def observe (c : SimulatedChain) (limit now : Nat) : Option UInt64 → SimulatedChain × Progress
  | some height => c.observeAt limit now height
  | none => c.ask limit now .latestHeight (c.observeAt limit now c.latest)

/-- Goes on with an observation when its call ends. -/
def resume (c : SimulatedChain) (limit : Nat) (call : PendingCall) : SimulatedChain × Progress :=
  if call.timesOut then (c, c.outage (.timedOut limit))
  else
    match call.question with
    | .latestHeight => c.observeAt limit call.due c.latest
    | .contents height => (c, .finished (c.contents height))

theorem remaining_observeAt (c : SimulatedChain) (limit now : Nat) (height : UInt64) :
    (c.observeAt limit now height).2.remaining ≤ 1 := by
  unfold observeAt ask outage
  split <;> (try split) <;> (try split) <;> (try split) <;> simp [Progress.remaining]

theorem remaining_resume (c : SimulatedChain) (limit : Nat) (call : PendingCall) :
    (c.resume limit call).2.remaining < (Progress.waiting call).remaining := by
  obtain ⟨question, since, due, timesOut⟩ := call
  unfold resume
  split
  · cases question <;> simp [outage, Progress.remaining]
  · cases question with
    | latestHeight =>
      exact Nat.lt_of_le_of_lt (remaining_observeAt c limit due c.latest) (by
        simp [Progress.remaining])
    | contents height => simp [Progress.remaining]

/-- Waits for an observation. -/
def complete (c : SimulatedChain) (limit : Nat) (p : Progress) :
    SimulatedChain × Except SourceError Observation :=
  match p with
  | .finished result => (c, result)
  | .waiting call => (c.resume limit call).1.complete limit (c.resume limit call).2
termination_by p.remaining
decreasing_by exact remaining_resume c limit call

end SimulatedChain

end Attestation
