import Contention.Monitor
import Contention.Record.Wire
import Contention.Sink

/-!
# A monitor with its sink

A `Station` is a monitor whose records go to a sink as payloads, one for each event that is
emitted. `Station.replay` feeds it the events of its host's scenario, in their order.
-/

namespace Contention

open Log (Entry)

/-- A monitor, the sink of its records, and the log of both. -/
structure Station where
  monitor : Monitor
  sink : Sink
  log : List Entry := []
deriving DecidableEq, Repr

namespace Station

/-- Observe an event and send its record, if there is one. -/
def observe (s : Station) (thread object : Nat) : Outcome × Station :=
  let (report, monitor) := s.monitor.observe thread object
  let (sent, sink) := match report.record with
    | none => ([], s.sink)
    | some record => s.sink.send record.payload
  (report.outcome, { monitor := monitor, sink := sink, log := s.log ++ report.log ++ sent })

/-- Change the sampling. -/
def control (s : Station) (c : Control) : Station := { s with monitor := s.monitor.control c }

/-- Take the receiver of the sink away. -/
def close (s : Station) : Station := { s with sink := s.sink.close }

/-- Something that happens to a station. -/
inductive Step where
  /-- The sampling is changed. -/
  | control (change : Control)
  /-- A thread has entered the monitor of an object. -/
  | event (thread object : Nat)
  /-- The receiver of the sink goes away. -/
  | close
deriving DecidableEq, Repr

/-- The station after a step, with an outcome if the step is an event. -/
def step (s : Station) : Step → Option Outcome × Station
  | .control change => (none, s.control change)
  | .event thread object =>
    let (outcome, s) := s.observe thread object
    (some outcome, s)
  | .close => (none, s.close)

/-- The station after some steps, with the outcomes of all events in order. -/
def run (s : Station) : List Step → List Outcome × Station
  | [] => ([], s)
  | first :: rest =>
    let (outcome, s) := s.step first
    let (later, s) := s.run rest
    (outcome.toList ++ later, s)

/-- The events of the host's scenario, in their order. -/
def script (s : Station) : List Step :=
  s.monitor.host.events.map fun (thread, object) => .event thread object

/-- The station after the events of the host's scenario. -/
def replay (s : Station) : Station := (s.run s.script).2

/-- The station after its log and what came out of its sink have been taken away. -/
def drained (s : Station) : Station := { s with sink := s.sink.drained, log := [] }

end Station

end Contention
