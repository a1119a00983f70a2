import Attestation.Source.Simulated

/-!
# Polling

A service polls the chains it is given, each with a collector of its own. Polling starts with a
collection and goes on with one collection per interval. A tick that comes while a collection is
under way fires late. The next tick is counted from the tick before it, or from the time at which
that one fired, if it was more than five milliseconds late. Polling that is stopped, or started
anew, brings a collection under way to its end, so that collections of one chain may overlap. The
clock is that of the simulated chains, so that a service is a value which is moved on to a time; of
two things due at one time that comes first which was waited for longer.
-/

namespace Attestation

/-- How a collector is polled. -/
structure Duty (κ : Type) where
  /-- The collector while an observation is under way, if it is still polled. -/
  begin? : κ → Option κ
  /-- The collector after an observation, and whether it is polled on. -/
  finish : κ → Except SourceError Observation → κ × Bool

/-- Where the polling of a chain stands. -/
inductive PollingTask where
  /-- The chain is not polled. -/
  | off
  /-- The next tick is known, and since when it is waited for. -/
  | waiting (tick since : Nat)
  /-- A collection is under way; the tick behind it is known. -/
  | observing (tick : Nat) (call : PendingCall)
  /-- A collection is under way, behind which polling stops. -/
  | ending (call : PendingCall)

namespace PollingTask

/-- The task after a collection that ended at time `now`, if polling goes on. -/
def resting (tick? : Option Nat) (now : Nat) : PollingTask :=
  match tick? with
  | some tick => .waiting tick now
  | none => .off

/-- The task while a call of a collection is under way. -/
def calling (tick? : Option Nat) (call : PendingCall) : PollingTask :=
  match tick? with
  | some tick => .observing tick call
  | none => .ending call

/-- Whether what a task waits for comes before the end of another call. A tick that is overdue fires
at once. -/
def isBefore (task : PollingTask) (other : PendingCall) : Bool :=
  match task with
  | .off => false
  | .waiting tick since =>
    if tick ≤ since then since ≤ other.due
    else tick < other.due || (tick = other.due && since < other.since)
  | .observing _ call | .ending call =>
    call.due < other.due || (call.due = other.due && call.since < other.since)

end PollingTask

/-- Puts a call among calls in the order in which they end. -/
def PendingCall.insert (call : PendingCall) : List PendingCall → List PendingCall
  | [] => [call]
  | other :: calls =>
    if call.due < other.due ∨ (call.due = other.due ∧ call.since < other.since) then
      call :: other :: calls
    else other :: call.insert calls

/-- How many answers calls still wait for. -/
def PendingCall.remaining : List PendingCall → Nat
  | [] => 0
  | call :: calls => (Progress.waiting call).remaining + remaining calls

theorem PendingCall.remaining_insert (call : PendingCall) (calls : List PendingCall) :
    remaining (call.insert calls) = (Progress.waiting call).remaining + remaining calls := by
  induction calls with
  | nil => rfl
  | cons other calls ih =>
    rw [insert]
    split
    · rfl
    · simp only [remaining, ih]
      omega

/-- A chain that is polled. -/
structure Poller (κ : Type) where
  /-- What is polled. -/
  collector : κ
  /-- The chain. -/
  chain : SimulatedChain
  /-- How long a call to the chain may take. -/
  limit : Nat
  /-- The time between ticks. -/
  interval : Nat
  /-- Where the polling stands. -/
  task : PollingTask := .off
  /-- The calls of collections left over from polling that was started before, in the order in which
  they end. -/
  leftover : List PendingCall := []

namespace Poller

variable {κ : Type}

/-- How late a tick may fire without delaying the next one. -/
def tolerance : Nat := 5

/-- The tick after one that fires at time `now`. -/
def nextTick (p : Poller κ) (tick now : Nat) : Nat :=
  (if now ≤ tick + tolerance then tick else now) + p.interval

/-- Goes on at time `now` when an observation has come as far as `progress`. -/
def proceed (duty : Duty κ) (p : Poller κ) (tick? : Option Nat) (now : Nat) (progress : Progress) :
    Poller κ :=
  match progress with
  | .waiting call => { p with task := .calling tick? call }
  | .finished result =>
    { p with
      collector := (duty.finish p.collector result).1
      task := if (duty.finish p.collector result).2 then .resting tick? now else .off }

/-- Fires a tick at time `now`: an observation begins, if the collector is still polled. Without an
interval nothing can be polled. -/
def fire (duty : Duty κ) (p : Poller κ) (tick now : Nat) : Poller κ :=
  match duty.begin? p.collector with
  | none => { p with task := .off }
  | some collector =>
    if p.interval = 0 then { p with task := .off }
    else
      let begun := p.chain.observe p.limit now none
      { p with collector, chain := begun.1 }.proceed duty (some (p.nextTick tick now)) now begun.2

/-- Ends a call: the observation goes on. -/
def answer (duty : Duty κ) (p : Poller κ) (tick? : Option Nat) (call : PendingCall) : Poller κ :=
  let resumed := p.chain.resume p.limit call
  { p with chain := resumed.1 }.proceed duty tick? call.due resumed.2

/-- Ends a call that was left over; `calls` are the others. -/
def answerLeftover (duty : Duty κ) (p : Poller κ) (call : PendingCall)
    (calls : List PendingCall) : Poller κ :=
  match p.chain.resume p.limit call with
  | (chain, .waiting next) => { p with chain, leftover := next.insert calls }
  | (chain, .finished result) =>
    { p with collector := (duty.finish p.collector result).1, chain, leftover := calls }

/-- Does what the task waits for, unless that comes after a time. -/
def workTask? (duty : Duty κ) (time : Nat) (p : Poller κ) : Option (Poller κ) :=
  match p.task with
  | .off => none
  | .waiting tick since =>
    if max tick since ≤ time then some (p.fire duty tick (max tick since)) else none
  | .observing tick call => if call.due ≤ time then some (p.answer duty (some tick) call) else none
  | .ending call => if call.due ≤ time then some (p.answer duty none call) else none

/-- Does what comes next, unless that comes after a time. -/
def work? (duty : Duty κ) (time : Nat) (p : Poller κ) : Option (Poller κ) :=
  match p.leftover with
  | [] => p.workTask? duty time
  | call :: calls =>
    if p.task.isBefore call then p.workTask? duty time
    else if call.due ≤ time then some (p.answerLeftover duty call calls)
    else none

/-- A bound on the number of events of a task up to a time. -/
def taskRemaining (time : Nat) : PollingTask → Nat
  | .off => 0
  | .waiting tick _ => 1 + 3 * (time + 1 - tick)
  | .observing tick call => 1 + 3 * (time + 1 - tick) + (Progress.waiting call).remaining
  | .ending call => (Progress.waiting call).remaining

/-- A bound on the number of events up to a time. -/
def remaining (time : Nat) (p : Poller κ) : Nat :=
  taskRemaining time p.task + PendingCall.remaining p.leftover

theorem remaining_proceed (duty : Duty κ) (p : Poller κ) (tick? : Option Nat) (now time : Nat)
    (progress : Progress) :
    (p.proceed duty tick? now progress).remaining time ≤
      taskRemaining time (.resting tick? now) + progress.remaining +
        PendingCall.remaining p.leftover := by
  cases progress with
  | waiting call => cases tick? <;> simp [proceed, remaining, PollingTask.calling,
      PollingTask.resting, taskRemaining]
  | finished result =>
    by_cases h : (duty.finish p.collector result).2 = true <;>
      cases tick? <;> simp [proceed, remaining, PollingTask.resting, taskRemaining, h]

theorem remaining_fire (duty : Duty κ) (p : Poller κ) (tick now time : Nat) (h : tick ≤ time) :
    (p.fire duty tick now).remaining time <
      1 + 3 * (time + 1 - tick) + PendingCall.remaining p.leftover := by
  unfold fire
  split
  · simp only [remaining, taskRemaining]
    omega
  · rename_i collector _
    split
    · simp only [remaining, taskRemaining]
      omega
    · rename_i hi
      have hp := remaining_proceed duty
        { p with collector, chain := (p.chain.observe p.limit now none).1 }
        (some (p.nextTick tick now)) now time (p.chain.observe p.limit now none).2
      have ho := Progress.remaining_le (p.chain.observe p.limit now none).2
      have ht : tick < p.nextTick tick now := by
        unfold nextTick
        split <;> omega
      simp only [PollingTask.resting, taskRemaining] at hp
      exact Nat.lt_of_le_of_lt hp (by omega)

theorem remaining_answer (duty : Duty κ) (p : Poller κ) (tick? : Option Nat) (call : PendingCall)
    (time : Nat) :
    (p.answer duty tick? call).remaining time <
      taskRemaining time (.calling tick? call) + PendingCall.remaining p.leftover := by
  have hp := remaining_proceed duty { p with chain := (p.chain.resume p.limit call).1 } tick?
    call.due time (p.chain.resume p.limit call).2
  have hr := p.chain.remaining_resume p.limit call
  refine Nat.lt_of_le_of_lt hp ?_
  cases tick? <;> simp only [PollingTask.resting, PollingTask.calling, taskRemaining] <;> omega

theorem remaining_workTask {duty : Duty κ} {time : Nat} {p q : Poller κ}
    (h : p.workTask? duty time = some q) : q.remaining time < p.remaining time := by
  unfold workTask? at h
  split at h
  · simp at h
  · rename_i tick since ht
    split at h
    · obtain rfl := Option.some.inj h
      have := p.remaining_fire duty tick (max tick since) time (by omega)
      simpa [remaining, ht, taskRemaining] using this
    · simp at h
  · rename_i tick call ht
    split at h
    · obtain rfl := Option.some.inj h
      have := p.remaining_answer duty (some tick) call time
      simpa [remaining, ht, PollingTask.calling] using this
    · simp at h
  · rename_i call ht
    split at h
    · obtain rfl := Option.some.inj h
      have := p.remaining_answer duty none call time
      simpa [remaining, ht, PollingTask.calling] using this
    · simp at h

theorem remaining_work {duty : Duty κ} {time : Nat} {p q : Poller κ}
    (h : p.work? duty time = some q) : q.remaining time < p.remaining time := by
  unfold work? at h
  split at h
  · exact remaining_workTask h
  · rename_i call calls hl
    split at h
    · exact remaining_workTask h
    · split at h
      · obtain rfl := Option.some.inj h
        have hr := p.chain.remaining_resume p.limit call
        unfold answerLeftover
        split
        · rename_i chain next hn
          simp only [hn] at hr
          simp only [remaining, hl, PendingCall.remaining_insert, PendingCall.remaining]
          omega
        · rename_i chain result hn
          simp only [hn] at hr
          simp only [remaining, hl, PendingCall.remaining]
          omega
      · simp at h

/-- Lets everything happen that happens up to a time. -/
def run (duty : Duty κ) (time : Nat) (p : Poller κ) : Poller κ :=
  match _h : p.work? duty time with
  | some q => run duty time q
  | none => p
termination_by p.remaining time
decreasing_by exact remaining_work _h

/-- Starts polling at a time. A collection under way is left over. -/
def start (duty : Duty κ) (now : Nat) (p : Poller κ) : Poller κ :=
  let leftover :=
    match p.task with
    | .observing _ call | .ending call => call.insert p.leftover
    | _ => p.leftover
  run duty now { p with task := .waiting now now, leftover }

/-- Tells polling to stop. A collection under way is the last one. -/
def quit (p : Poller κ) : Poller κ :=
  match p.task with
  | .observing _ call => { p with task := .ending call }
  | .waiting .. => { p with task := .off }
  | _ => p

/-- When polling that was told to stop has stopped. A collection makes at most two calls. -/
def quitTime (duty : Duty κ) (now : Nat) (p : Poller κ) : Nat :=
  match p.task with
  | .ending call =>
    match (p.run duty call.due).task with
    | .ending next => next.due
    | _ => call.due
  | _ => now

end Poller

/-! ### Services -/

/-- The chains that a service polls, under their ids. -/
structure Service (κ : Type) where
  /-- The time. -/
  now : Nat := 0
  /-- The chains. -/
  pollers : OrderedMap String (Poller κ)

namespace Service

variable {κ : Type}

/-- The service that polls chains; of two chains with one id the later one stands. -/
def ofList (pollers : List (Poller κ)) : Service κ :=
  { pollers := .ofList (pollers.map fun p => (p.chain.chainId, p)) }

/-- The ids of the chains. -/
def chainIds (s : Service κ) : List String := s.pollers.keys

/-- The collectors in the order of their chains. -/
def collectors (s : Service κ) : List κ := s.pollers.values.map (·.collector)

/-- The collector of a chain. -/
def collector? (s : Service κ) (chainId : String) : Option κ :=
  (s.pollers.get? chainId).map (·.collector)

/-- Changes the chain under an id. -/
def changeChain (s : Service κ) (chainId : String) (f : SimulatedChain → SimulatedChain) :
    Service κ :=
  { s with pollers := s.pollers.modify chainId fun p => { p with chain := f p.chain } }

/-- Starts polling. -/
def start (duty : Duty κ) (s : Service κ) : Service κ :=
  { s with pollers := s.pollers.mapValues (Poller.start duty s.now) }

/-- Lets a number of milliseconds pass. -/
def advance (duty : Duty κ) (s : Service κ) (ms : Nat) : Service κ :=
  { now := s.now + ms, pollers := s.pollers.mapValues (Poller.run duty (s.now + ms)) }

/-- Stops polling, and waits until every chain has stopped. -/
def stop (duty : Duty κ) (s : Service κ) : Service κ :=
  let pollers := s.pollers.mapValues Poller.quit
  let time := pollers.values.foldl (fun time p => max time (p.quitTime duty s.now)) s.now
  { now := time, pollers := pollers.mapValues (Poller.run duty time) }

end Service

end Attestation
