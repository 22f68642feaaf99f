import Contention.Station

/-!
# Stations follow their monitors

A station adds a sink to a monitor, and nothing flows back from the sink. `Station.run_monitor`
splits a run of a station into the run of its monitor and the payloads that this run makes, which
reach the sink in their order, one for each record.
-/

namespace Contention

/-- The sink after it has been handed payloads one after the other. -/
def Sink.sendAll (s : Sink) (payloads : List String) : Sink :=
  payloads.foldl (fun s payload => (s.send payload).2) s

@[simp]
theorem Sink.sendAll_closure (delivered payloads : List String) :
    (Sink.closure delivered).sendAll payloads = .closure (delivered ++ payloads) := by
  induction payloads generalizing delivered with
  | nil => simp [sendAll]
  | cons p rest ih =>
    rw [sendAll, List.foldl_cons, ← sendAll, send, ih]
    simp

/-- A writer without limits takes all bytes at once. -/
theorem Writer.writeAll_unlimited (written bytes : List UInt8) :
    Writer.writeAll { written := written } bytes = (.ok (), { written := written ++ bytes }) := by
  cases bytes with
  | nil => simp [writeAll, writeWithin]
  | cons byte rest => simp [writeAll, writeWithin, write, limit]

/-- A writer without limits ends up with one line for each payload. -/
theorem Sink.sendAll_writer (written : List UInt8) (payloads : List String) :
    (Sink.writer { written := written }).sendAll payloads =
      .writer { written := written ++ payloads.flatMap fun p => Writer.encode p ++ [10] } := by
  induction payloads generalizing written with
  | nil => simp [sendAll]
  | cons p rest ih =>
    have hline : ((Sink.writer { written := written }).send p).2 =
        .writer { written := written ++ (Writer.encode p ++ [10]) } := by
      simp [send, Writer.writeLine, Writer.writeAll_unlimited, Writer.flush, Writer.lineFeed]
    rw [sendAll, List.foldl_cons, ← sendAll, hline, ih, List.flatMap_cons, List.append_assoc]

namespace Station

/-- A step of the monitor as a step of its station. -/
def Step.ofMonitor : Monitor.Step → Step
  | .control change => .control change
  | .event thread object => .event thread object

/-- The payload of a report, if it comes with a record. -/
def payload? (r : Report) : Option String := r.record.map Record.payload

/-- An event passes from the monitor to the sink. -/
theorem observe_monitor (s : Station) (thread object : Nat) :
    (s.observe thread object).1 = (s.monitor.observe thread object).1.outcome ∧
      (s.observe thread object).2.monitor = (s.monitor.observe thread object).2 ∧
      (s.observe thread object).2.sink =
        s.sink.sendAll (payload? (s.monitor.observe thread object).1).toList := by
  rcases hm : s.monitor.observe thread object with ⟨⟨outcome, _ | record, log⟩, m⟩ <;>
    simp [observe, hm, payload?, Sink.sendAll]

/-- **Nothing flows back from the sink.** The outcomes are those of the monitor, and the sink is
handed the payloads of its records in their order. -/
theorem run_monitor (s : Station) (steps : List Monitor.Step) :
    (s.run (steps.map Step.ofMonitor)).1 = (s.monitor.run steps).1.map Report.outcome ∧
      (s.run (steps.map Step.ofMonitor)).2.monitor = (s.monitor.run steps).2 ∧
      (s.run (steps.map Step.ofMonitor)).2.sink =
        s.sink.sendAll ((s.monitor.run steps).1.filterMap payload?) := by
  induction steps generalizing s with
  | nil => exact ⟨rfl, rfl, rfl⟩
  | cons first rest ih =>
    cases first with
    | control change =>
      simpa [run, step, Step.ofMonitor, control, Monitor.run, Monitor.step] using
        ih (s.control change)
    | event thread object =>
      obtain ⟨hout, hmonitor, hsink⟩ := s.observe_monitor thread object
      obtain ⟨ihout, ihmonitor, ihsink⟩ := ih (s.observe thread object).2
      rw [hmonitor] at ihout ihmonitor ihsink
      refine ⟨?_, ?_, ?_⟩
      · simpa [run, step, Step.ofMonitor, Monitor.run, Monitor.step, hout] using ihout
      · simpa [run, step, Step.ofMonitor, Monitor.run, Monitor.step] using ihmonitor
      · have hlast :
            (s.run ((Monitor.Step.event thread object :: rest).map Step.ofMonitor)).2.sink =
            ((s.observe thread object).2.run (rest.map Step.ofMonitor)).2.sink := rfl
        rw [hlast, ihsink, hsink]
        rcases hp : payload? (s.monitor.observe thread object).1 with _ | payload <;>
          simp [Monitor.run, Monitor.step, Sink.sendAll, hp]

end Station

end Contention
