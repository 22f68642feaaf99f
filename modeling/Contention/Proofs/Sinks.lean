import Contention.Proofs.Metrics
import Contention.Proofs.Reference
import Contention.Proofs.Trace

/-!
# Sinks do not disturb the monitor

What a station does to its sink is to hand payloads to it and, when the receiver goes away, to
close it; these are the `Sink.Message`s that the sink hears. What becomes of a payload is settled
inside the sink, and nothing flows back: the monitor of a station goes its own way
(`Station.run_steps`), action by action and with the same answers (`Monitor.transcript`), whatever
the sink loses and whenever it is closed.

The step behind it is `Station.perform_congr`: every single action is answered alike by two stations
with the same monitor. It is lifted to dialogues by `Dialogue.transcript_congr`.
-/

namespace Contention

open Log (Entry)

/-! ### What a sink hears -/

/-- Something that a sink is told. -/
inductive Sink.Message where
  | payload (text : String)
  | close
deriving DecidableEq, Repr

namespace Sink

/-- The payload of a message. -/
def Message.payload? : Message → Option String
  | .payload text => some text
  | .close => none

/-- The sink after it was told something. -/
def hear (s : Sink) : Message → Sink
  | .payload text => (s.send text).2
  | .close => s.close

/-- The sink after it was told one thing after the other. -/
def hearAll (s : Sink) (messages : List Message) : Sink := messages.foldl hear s

private theorem hearAll_payloads (s : Sink) (payloads : List String) :
    s.hearAll (payloads.map .payload) = s.sendAll payloads := List.foldl_map

private theorem hearAll_append (s : Sink) (first later : List Message) :
    s.hearAll (first ++ later) = (s.hearAll first).hearAll later := List.foldl_append

end Sink

namespace Station

/-- What the sink hears in the course of a step. -/
def heardStep (s : Station) : Step → List Sink.Message
  | .close => [.close]
  | step => ((s.stepTranscript step).filterMap Line.payload?).map .payload

/-- What the sink hears in the course of some steps. -/
def heard (s : Station) : List Step → List Sink.Message
  | [] => []
  | first :: rest => s.heardStep first ++ (s.step first).2.heard rest

/-- The payloads that are handed to the sink in the course of some steps. -/
def handed (s : Station) (steps : List Step) : List String :=
  (s.heard steps).filterMap Sink.Message.payload?

private theorem payloads_heardStep (s : Station) (first : Step) :
    (s.heardStep first).filterMap Sink.Message.payload? =
      (s.stepTranscript first).filterMap Line.payload? := by
  have hpayloads (payloads : List String) :
      (payloads.map Sink.Message.payload).filterMap Sink.Message.payload? = payloads := by
    rw [List.filterMap_map]
    exact List.filterMap_some
  cases first with
  | control change => rfl
  | event thread object => exact hpayloads _
  | close => rfl

/-- The payloads are those of the transcript. -/
private theorem handed_eq (s : Station) (steps : List Step) :
    s.handed steps = (s.transcript steps).filterMap Line.payload? := by
  induction steps generalizing s with
  | nil => rfl
  | cons first rest ih =>
    have hlater := ih (s.step first).2
    rw [handed] at hlater ⊢
    rw [heard, transcript, List.filterMap_append, List.filterMap_append, payloads_heardStep,
      hlater]

end Station

/-- A dialogue hands its payloads to the sink and does nothing else to it. -/
private theorem Talk.sink_run (d : Talk α) (s : Station) :
    (d.run Station.perform s).2.sink =
      s.sink.sendAll ((d.transcript Station.perform s).filterMap Line.payload?) := by
  induction d generalizing s with
  | done a => rfl
  | ask a next ih =>
    have hlater := ih (s.perform a).1 (s.perform a).2
    rw [s.sink_perform a] at hlater
    have hlines : (Dialogue.transcript Station.perform (.ask a next) s).filterMap Line.payload? =
        [(⟨a, (s.perform a).1⟩ : Line)].filterMap Line.payload? ++
          ((next (s.perform a).1).transcript Station.perform (s.perform a).2).filterMap
            Line.payload? := by
      rw [← List.filterMap_append]
      rfl
    rw [hlines]
    exact hlater.trans List.foldl_append.symm

namespace Station

private theorem sink_step (s : Station) (first : Step) :
    (s.step first).2.sink = s.sink.hearAll (s.heardStep first) := by
  cases first with
  | control change => rfl
  | close => rfl
  | event thread object =>
    have hsink := Talk.sink_run (Talk.observe thread object) s
    rw [Talk.run_observe] at hsink
    exact hsink.trans (Sink.hearAll_payloads _ _).symm

/-- **The sink at the end of a run** is what it becomes by hearing this. -/
theorem sink_run (s : Station) (steps : List Step) :
    (s.run steps).2.sink = s.sink.hearAll (s.heard steps) := by
  induction steps generalizing s with
  | nil => rfl
  | cons first rest ih =>
    have hlater := ih (s.step first).2
    rw [sink_step] at hlater
    rw [heard, Sink.hearAll_append]
    exact hlater

/-! ### The monitor goes its own way -/

/-- **One action** is answered alike by stations with the same monitor, and leaves them so. -/
theorem perform_congr (s s' : Station) (a : Action) (h : s.monitor = s'.monitor) :
    (s.perform a).1 = (s'.perform a).1 ∧ (s.perform a).2.monitor = (s'.perform a).2.monitor := by
  obtain ⟨m, sink, log⟩ := s
  obtain ⟨m', sink', log'⟩ := s'
  obtain rfl : m = m' := h
  cases a <;> exact ⟨rfl, rfl⟩

private theorem transcript_talk_congr (d : Talk α) {s s' : Station} (h : s.monitor = s'.monitor) :
    d.transcript perform s = d.transcript perform s' :=
  d.transcript_congr perform_congr h

/-- What a step is to the monitor. That the receiver goes away is nothing to it. -/
def Step.toMonitor? : Step → Option Monitor.Step
  | .control change => some (.control change)
  | .event thread object => some (.event thread object)
  | .close => none

end Station

/-- The actions of a monitor in the course of some steps, with their answers. They are taken down at
a station that keeps all payloads; any other one would do. -/
def Monitor.transcript (m : Monitor) : List Monitor.Step → List Line
  | [] => []
  | .control change :: rest => (m.control change).transcript rest
  | .event thread object :: rest =>
    (Talk.observe thread object).transcript Station.perform { monitor := m, sink := .closure [] } ++
      (m.observe thread object).2.transcript rest

/-- **A run at any sink** is a run of the monitor: it has the outcomes, the monitor afterwards and
the actions in between that the monitor has of its own. -/
theorem Station.run_steps (s : Station) (steps : List Step) :
    let own := steps.filterMap Step.toMonitor?
    (s.run steps).1 = (s.monitor.run own).1.map Report.outcome ∧
      (s.run steps).2.monitor = (s.monitor.run own).2 ∧
      s.transcript steps = s.monitor.transcript own := by
  induction steps generalizing s with
  | nil => exact ⟨rfl, rfl, rfl⟩
  | cons first rest ih =>
    cases first with
    | control change => exact ih (s.control change)
    | close => exact ih s.close
    | event thread object =>
      obtain ⟨houtcome, hmonitor, -⟩ := s.observe_monitor thread object
      obtain ⟨ihout, ihmonitor, ihlines⟩ := ih (s.observe thread object).2
      rw [hmonitor] at ihout ihmonitor ihlines
      refine ⟨?_, ihmonitor, ?_⟩
      · exact congrArg₂ List.cons houtcome ihout
      · exact congrArg₂ (· ++ ·) (transcript_talk_congr _ rfl) ihlines

/-! ### Records and outcomes -/

/-- The number under which an event was emitted. -/
def Outcome.count? : Outcome → Option UInt64
  | .emitted count => some count
  | _ => none

namespace Monitor

/-- An event has a record if it is emitted, and the record has its number. -/
private theorem count?_observe (m : Monitor) (thread object : Nat) :
    (m.observe thread object).1.outcome.count? =
      (m.observe thread object).1.record.map Record.count := by
  obtain ⟨-, -, hspec⟩ := m.observe_spec thread object
  have houtcome := congrArg Prod.fst hspec
  have hrecord := congrArg (fun told => told.2.1) hspec
  dsimp only at houtcome hrecord
  rw [houtcome, hrecord]
  -- whether the event is admitted, and whether its type can be told
  split
  · split <;> rfl
  · rfl

private theorem counts_run (m : Monitor) (steps : List Step) :
    ((m.run steps).1.map Report.outcome).filterMap Outcome.count? =
      (Report.records (m.run steps).1).map Record.count := by
  induction steps generalizing m with
  | nil => rfl
  | cons first rest ih =>
    cases first with
    | control change => exact ih (m.control change)
    | event thread object =>
      have hcount := m.count?_observe thread object
      rw [run_event, List.map_cons, List.filterMap_cons, Report.records_cons, List.map_append, ih,
        hcount]
      cases (m.observe thread object).1.record <;> rfl

/-- The payload of an event, at a station that keeps all payloads. -/
private theorem payloads_observe (m : Monitor) (thread object : Nat) :
    ((Talk.observe thread object).transcript Station.perform
        { monitor := m, sink := .closure [] }).filterMap Line.payload? =
      (Station.payload? (m.observe thread object).1).toList := by
  let s : Station := { monitor := m, sink := .closure [] }
  have hsink := Talk.sink_run (Talk.observe thread object) s
  obtain ⟨-, -, hreport⟩ := s.observe_monitor thread object
  rw [Talk.run_observe, hreport] at hsink
  -- what is kept in the end tells all that was handed over
  rw [Sink.sendAll_closure, Sink.sendAll_closure, List.nil_append, List.nil_append] at hsink
  exact (Sink.closure.inj hsink).symm

/-- The payloads among the actions of a monitor are those of its records. -/
private theorem payloads_transcript (m : Monitor) (steps : List Step) :
    (m.transcript steps).filterMap Line.payload? =
      (Report.records (m.run steps).1).map Record.payload := by
  induction steps generalizing m with
  | nil => rfl
  | cons first rest ih =>
    cases first with
    | control change => exact ih (m.control change)
    | event thread object =>
      rw [transcript, List.filterMap_append, payloads_observe, ih, run_event, Report.records_cons,
        List.map_append, Station.payload?]
      cases (m.observe thread object).1.record <;> rfl

end Monitor

/-! ### Two stations -/

/-- **Sinks do not disturb the monitor.** Two stations have the same monitor and any two sinks, and
the same changes and events happen to them; the receivers of their sinks may go away at any points,
at different ones in the two runs. Then they have the same outcomes, after all steps they have the
same monitor (its metrics, tally and sampling, and its host with calls and buffers), and on the way
they have done the same. The sinks were handed the same payloads in the same order, one for each
event that was emitted and under its number; all of these count as emitted, also those that a sink
has lost. Every beginning of a run is a run, so this holds after each step. -/
theorem sinks_harmless (m : Monitor) (sink sink' : Sink) (log log' : List Entry)
    (steps steps' : List Station.Step)
    (hsteps : steps.filterMap Station.Step.toMonitor? =
      steps'.filterMap Station.Step.toMonitor?) :
    let s : Station := { monitor := m, sink := sink, log := log }
    let s' : Station := { monitor := m, sink := sink', log := log' }
    (s.run steps).1 = (s'.run steps').1 ∧
      (s.run steps).2.monitor = (s'.run steps').2.monitor ∧
      s.transcript steps = s'.transcript steps' ∧
      s.handed steps = s'.handed steps' ∧
      (∃ records : List Record, s.handed steps = records.map Record.payload ∧
        (s.run steps).1.filterMap Outcome.count? = records.map Record.count) ∧
      (s.run steps).2.monitor.metrics.recordsEmitted =
        m.metrics.recordsEmitted + .ofNat (s.handed steps).length ∧
      (s.run steps).2.sink = sink.hearAll (s.heard steps) ∧
      (s'.run steps').2.sink = sink'.hearAll (s'.heard steps') := by
  intro s s'
  obtain ⟨hout, hmonitor, hlines⟩ := s.run_steps steps
  obtain ⟨hout', hmonitor', hlines'⟩ := s'.run_steps steps'
  rw [← hsteps] at hout' hmonitor' hlines'
  have htranscript : s.transcript steps = s'.transcript steps' := hlines.trans hlines'.symm
  -- what the sinks are handed is what the monitor has to report
  have hhanded : s.handed steps =
      (Report.records (m.run (steps.filterMap Station.Step.toMonitor?)).1).map Record.payload := by
    rw [Station.handed_eq, hlines, Monitor.payloads_transcript]
  refine ⟨hout.trans hout'.symm, hmonitor.trans hmonitor'.symm, htranscript, ?_,
    ⟨_, hhanded, ?_⟩, ?_, s.sink_run steps, s'.sink_run steps'⟩
  · rw [Station.handed_eq, Station.handed_eq, htranscript]
  · rw [hout, Monitor.counts_run]
  · obtain ⟨_, _, hcharged⟩ := m.charged_run (steps.filterMap Station.Step.toMonitor?)
    rw [hmonitor, hhanded, List.length_map]
    exact hcharged.recordsEmitted

/-- A channel whose receiver goes away before the first of two records delivers nothing, and a
writer that has room for five bytes, takes two at a time and refuses to flush has no room for
either. Both records count. -/
theorem sinks_harmless_losing :
    let m : Monitor := { host := { scenario := sharedLock } }
    let channel : Station := { monitor := m, sink := .channel true [] }
    let writer : Station :=
      { monitor := m, sink := .writer { room := some 5, chunk := some 2, failsFlush := true } }
    let steps : List Station.Step := [.event 0 1, .close, .event 0 0, .event 0 2]
    let steps' : List Station.Step := [.event 0 1, .event 0 0, .event 0 2]
    (writer.run steps').1 = [.unresolved, .emitted 1, .emitted 2] ∧
      (writer.handed steps').length = 2 ∧
      (writer.run steps').2.monitor.metrics.recordsEmitted = 2 ∧
      (channel.run steps).2.sink = .channel false [] := by
  intro m channel writer steps steps'
  obtain ⟨hout, hmonitor, -, hhanded, -, hemitted, -⟩ := sinks_harmless m (.channel true [])
    (.writer { room := some 5, chunk := some 2, failsFlush := true }) [] [] steps steps' rfl
  have htwo : (channel.handed steps).length = 2 := by decide
  refine ⟨hout.symm.trans (by decide), (congrArg List.length hhanded).symm.trans htwo, ?_, ?_⟩
  · rw [← hmonitor, hemitted, htwo]
    rfl
  · decide

end Contention
