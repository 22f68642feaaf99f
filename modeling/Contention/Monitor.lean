import Contention.Stack
import Contention.Tally

/-!
# The contention monitor

`Monitor.observe` is called each time a thread has entered the monitor of an object after waiting
for it. It decides whether the event is sampled, counts it under the type of its object, asks the
host for the stack, the name and the id of the thread, and reports the record to be sent. A type
that cannot be told ends the event; nothing else does, it only leaves a part of the record out.
Every record can be written (`Record.payload` is total), so none is ever dropped.
-/

namespace Contention

open Log (Entry)

/-- A monitor over a host. -/
structure Monitor where
  host : Host
  sampling : Sampling := {}
  tally : Tally := {}
  metrics : Metrics := {}
deriving DecidableEq, Repr

/-- What happened to a contention event. -/
inductive Outcome where
  /-- It was not admitted by the sampling decision. -/
  | notSampled
  /-- The type of its object could not be told. -/
  | unresolved
  /-- It was reported as the event of its type with this number. -/
  | emitted (count : UInt64)
deriving DecidableEq, Repr

/-- What the monitor has to say about an event. -/
structure Report where
  outcome : Outcome
  /-- The record to be sent. -/
  record : Option Record
  log : List Entry
deriving DecidableEq, Repr

/-! ### The parts of a record -/

/-- What was found out about a part of a record, with the host and the metrics afterwards. -/
structure Finding (α : Type) where
  value : Option α
  host : Host
  metrics : Metrics
  log : List Entry

/-- The frames of a thread. With depth zero nothing is attempted. -/
def findStack (h : Host) (m : Metrics) (depth thread : Nat) : Finding (List Frame) :=
  if depth = 0 then ⟨none, h, m, []⟩
  else
    let captured := h.capture thread depth
    let truncated := captured.result.any CapturedStack.truncated
    let m := m.stackAttempt captured.result.isSome truncated
    let m := if captured.result.isNone || truncated then m.softFailure else m
    ⟨captured.result.map CapturedStack.frames, captured.host, m, captured.log⟩

/-- The name of a thread. -/
def findThreadName (h : Host) (m : Metrics) (thread : Nat) : Finding String :=
  match h.threadInfo thread with
  | (.error e, h) => ⟨none, h, m.softFailure, [.threadInfoUnavailable e]⟩
  | (.ok name, h) =>
    let (log, h) := h.release name
    ⟨some name.text, h, m, log⟩

/-- The id of a thread in the operating system. -/
def findOsThreadId (h : Host) (m : Metrics) (thread : Nat) : Finding Int64 :=
  match h.osThreadId thread with
  | (.error e, h) => ⟨none, h, m.softFailure, [.threadIdUnavailable e]⟩
  | (.ok id, h) => ⟨some id, h, m, []⟩

/-! ### Events -/

namespace Monitor

/-- Change the sampling. -/
def control (m : Monitor) (c : Control) : Monitor :=
  { m with sampling := m.sampling.control c }

/-- Describe an admitted event of which the type and the number are known. -/
def describe (m : Monitor) (name : String) (count : UInt64) (thread : Nat) : Report × Monitor :=
  let stack := findStack m.host m.metrics m.sampling.depth thread
  let threadName := findThreadName stack.host stack.metrics thread
  let osThreadId := findOsThreadId threadName.host threadName.metrics thread
  let record : Record :=
    { className := name
      count := count
      stackTrace := stack.value
      threadName := threadName.value
      osThreadId := osThreadId.value }
  (⟨.emitted count, some record, stack.log ++ threadName.log ++ osThreadId.log⟩,
    { m with host := osThreadId.host, metrics := osThreadId.metrics.emitted })

/-- Take note of an event: `thread` has entered the monitor of `object`. -/
def observe (m : Monitor) (thread object : Nat) : Report × Monitor :=
  let (admitted, sampling) := m.sampling.next
  let m := { m with sampling := sampling, metrics := m.metrics.event }
  if admitted then
    let m := { m with metrics := m.metrics.sampled }
    match m.host.objectClass object with
    | (.error e, host) =>
      (⟨.unresolved, none, [.objectUnresolved e]⟩,
        { m with host := host, metrics := m.metrics.unresolved })
    | (.ok name, host) =>
      let (count, tally) := m.tally.record name
      { m with host := host, tally := tally }.describe name count thread
  else (⟨.notSampled, none, []⟩, m)

/-- Something that happens to a monitor. -/
inductive Step where
  /-- The sampling is changed. -/
  | control (change : Control)
  /-- A thread has entered the monitor of an object. -/
  | event (thread object : Nat)
deriving DecidableEq, Repr

/-- The monitor after a step, with a report if the step is an event. -/
def step (m : Monitor) : Step → Option Report × Monitor
  | .control change => (none, m.control change)
  | .event thread object =>
    let (report, m) := m.observe thread object
    (some report, m)

/-- The monitor after some steps, with the reports of all events in order. -/
def run (m : Monitor) : List Step → List Report × Monitor
  | [] => ([], m)
  | first :: rest =>
    let (report, m) := m.step first
    let (later, m) := m.run rest
    (report.toList ++ later, m)

end Monitor

end Contention
