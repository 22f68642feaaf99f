import Mathlib.Data.List.Forall2
import Contention.Proofs.Metrics

/-!
# Threads do not matter to counting

What is known of a thread goes into the record of an event and nowhere else: its frames, its name,
its id, and every failure on the way to them. Two monitors that watch **the same objects** count
alike whatever they are told about threads. `Monitor.CountsAlike` relates two monitors that agree in
all that counting depends on. It is kept by every pair of steps that are alike, which leaves the
threads of events and the depths of stacks free (`CountsAlike.control`, `CountsAlike.observe`), and
so by every pair of runs (`CountsAlike.run`); on the way the outcomes agree, and so do the types and
the numbers of the records.

The main statement is `counting_ignores_threads`. It has no bound on the length of the runs: where a
count wraps around, it does so in both.
-/

namespace Contention

/-! ### Alike steps -/

/-- Two changes of the sampling that differ at most in a depth. -/
inductive Control.Alike : Control → Control → Prop
  | enable (on : Bool) : Alike (.enable on) (.enable on)
  | rate (rate : Int) : Alike (.rate rate) (.rate rate)
  | depth (d d' : Int) : Alike (.depth d) (.depth d')
  | settings (on : Bool) (rate d d' : Int) :
    Alike (.settings ⟨on, rate, d⟩) (.settings ⟨on, rate, d'⟩)

/-- Two steps that differ at most in a depth or in the thread of an event. -/
inductive Monitor.Step.Alike : Monitor.Step → Monitor.Step → Prop
  | control {c c' : Control} (h : c.Alike c') : Alike (.control c) (.control c')
  | event (thread thread' object : Nat) : Alike (.event thread object) (.event thread' object)

/-! ### Alike states -/

/-- Two sampling states that differ at most in their depth. -/
structure Sampling.Alike (s s' : Sampling) : Prop where
  enabled : s.enabled = s'.enabled
  rate : s.rate = s'.rate
  decisions : s.decisions = s'.decisions

namespace Sampling.Alike

variable {s s' : Sampling}

theorem control (h : s.Alike s') {c c' : Control} (hc : c.Alike c') :
    (s.control c).Alike (s'.control c') := by
  obtain ⟨henabled, hrate, hdecisions⟩ := h
  cases hc with
  | enable on => exact ⟨rfl, hrate, hdecisions⟩
  | depth d d' => exact ⟨henabled, hrate, hdecisions⟩
  | rate r =>
    by_cases hr : 0 < r <;> constructor <;>
      simp [Sampling.control, setRate, hr, hrate, hdecisions]
  | settings on r d d' =>
    by_cases hr : 0 < r <;> constructor <;>
      simp [Sampling.control, Settings.apply, setEnabled, setRate, setDepth, hr, hrate, hdecisions]

theorem admits (h : s.Alike s') : s.admits = s'.admits := by
  rw [Sampling.admits, Sampling.admits, h.enabled, h.rate, h.decisions]

theorem next (h : s.Alike s') : s.next.2.Alike s'.next.2 :=
  ⟨h.enabled, h.rate, congrArg (· + 1) h.decisions⟩

end Sampling.Alike

/-- The type and the number of a record. -/
def Record.heading (r : Record) : String × UInt64 := (r.className, r.count)

/-- Two monitors that agree in all that counting depends on. -/
structure Monitor.CountsAlike (m m' : Monitor) : Prop where
  objects : m.host.scenario.objects = m'.host.scenario.objects
  sampling : m.sampling.Alike m'.sampling
  tally : m.tally = m'.tally

namespace Monitor.CountsAlike

variable {m m' : Monitor}

theorem control (h : CountsAlike m m') {c c' : Control} (hc : c.Alike c') :
    CountsAlike (m.control c) (m'.control c') :=
  ⟨h.objects, h.sampling.control hc, h.tally⟩

/-- **One event** has the same outcome for both, whatever its threads, and a record with the same
type and number, if it has one. -/
theorem observe (h : CountsAlike m m') (thread thread' object : Nat) :
    (m.observe thread object).1.outcome = (m'.observe thread' object).1.outcome ∧
      (m.observe thread object).1.record.map Record.heading =
        (m'.observe thread' object).1.record.map Record.heading ∧
      CountsAlike (m.observe thread object).2 (m'.observe thread' object).2 := by
  obtain ⟨hscenario, hsampling, hview⟩ := m.observe_spec thread object
  obtain ⟨hscenario', hsampling', hview'⟩ := m'.observe_spec thread' object
  have hobjects : (m.observe thread object).2.host.scenario.objects =
      (m'.observe thread' object).2.host.scenario.objects := by
    rw [hscenario, hscenario', h.objects]
  have hnext :
      (m.observe thread object).2.sampling.Alike (m'.observe thread' object).2.sampling := by
    rw [hsampling, hsampling']
    exact h.sampling.next
  -- decision, type and count are the same for both, so both go the same way
  have hname : m.host.scenario.className? object = m'.host.scenario.className? object := by
    rw [Scenario.className?, Scenario.className?, h.objects]
  rw [h.sampling.admits, hname, h.tally] at hview
  rcases ha : m'.sampling.admits with _ | _ <;> rw [ha] at hview hview'
  · simp only [Bool.false_eq_true, if_false, Prod.mk.injEq] at hview hview'
    obtain ⟨hout, hrec, htally⟩ := hview
    obtain ⟨hout', hrec', htally'⟩ := hview'
    exact ⟨by rw [hout, hout'], by rw [hrec, hrec'], hobjects, hnext, by rw [htally, htally']⟩
  · rcases hclass : m'.host.scenario.className? object with _ | name <;>
      simp only [hclass, if_true, Prod.mk.injEq] at hview hview' <;>
      obtain ⟨hout, hrec, htally⟩ := hview <;> obtain ⟨hout', hrec', htally'⟩ := hview' <;>
      refine ⟨by rw [hout, hout'], ?_, hobjects, hnext, by rw [htally, htally']⟩
    · rw [hrec, hrec']
    · rw [hrec, hrec']
      rfl

/-- **Runs** of alike steps have the same outcomes for both, and records with the same types and
numbers. -/
theorem run (h : CountsAlike m m') {steps steps' : List Step}
    (hsteps : List.Forall₂ Step.Alike steps steps') :
    (m.run steps).1.map Report.outcome = (m'.run steps').1.map Report.outcome ∧
      (Report.records (m.run steps).1).map Record.heading =
        (Report.records (m'.run steps').1).map Record.heading ∧
      CountsAlike (m.run steps).2 (m'.run steps').2 := by
  induction hsteps generalizing m m' with
  | nil => exact ⟨rfl, rfl, h⟩
  | cons hfirst _ ih =>
    cases hfirst with
    | control hc => exact ih (h.control hc)
    | event thread thread' object =>
      obtain ⟨hout, hrec, hafter⟩ := h.observe thread thread' object
      obtain ⟨ihout, ihrec, ihafter⟩ := ih hafter
      rw [run_event, run_event]
      refine ⟨?_, ?_, ihafter⟩
      · rw [List.map_cons, List.map_cons, hout, ihout]
      · rw [Report.records_cons, Report.records_cons, List.map_append, List.map_append,
          ← Option.toList_map, ← Option.toList_map, hrec, ihrec]

end Monitor.CountsAlike

/-! ### Counters -/

/-- Two runs from nothing on with the same outcomes and equally many records agree in the counters
that do not speak of threads. -/
private theorem Metrics.Charged.counters_eq {m m' : Metrics} {reports reports' : List Report}
    {a a' t t' : Nat} (h : Charged {} reports a t m) (h' : Charged {} reports' a' t' m')
    (hout : reports.map Report.outcome = reports'.map Report.outcome)
    (hrec : (Report.records reports).length = (Report.records reports').length) :
    m.eventsSeen = m'.eventsSeen ∧ m.eventsSampled = m'.eventsSampled ∧
      m.unresolvedObjects = m'.unresolvedObjects ∧ m.recordsEmitted = m'.recordsEmitted := by
  have hcount (p : Outcome → Bool) :
      reports.countP (p ∘ Report.outcome) = reports'.countP (p ∘ Report.outcome) := by
    rw [← List.countP_map, ← List.countP_map, hout]
  have hlength : reports.length = reports'.length := by
    simpa only [List.length_map] using congrArg List.length hout
  refine ⟨?_, ?_, ?_, ?_⟩
  · rw [h.eventsSeen, h'.eventsSeen, hlength]
  · rw [h.eventsSampled, h'.eventsSampled]
    exact congrArg (0 + UInt64.ofNat ·) (hcount fun o => decide (o ≠ .notSampled))
  · rw [h.unresolvedObjects, h'.unresolvedObjects]
    exact congrArg (0 + UInt64.ofNat ·) (hcount fun o => decide (o = .unresolved))
  · rw [h.recordsEmitted, h'.recordsEmitted, hrec]

/-! ### The main statement -/

/-- **Counting ignores threads.** Let two fresh monitors watch the same objects, with whatever
threads, and let their steps be alike: the events have the same objects, with whatever threads, and
the changes of the sampling are the same up to depths. Then the outcomes are the same, and at the
end the tallies, the sampling up to its depth, and the counters of events seen, events sampled,
unresolved objects and records emitted. The records that are handed to the sinks agree one by one in
type and number. -/
theorem counting_ignores_threads {host host' : Host}
    (hobjects : host.scenario.objects = host'.scenario.objects) (sink sink' : Sink)
    {steps steps' : List Monitor.Step} (hsteps : List.Forall₂ Monitor.Step.Alike steps steps') :
    let start : Station := { monitor := { host := host }, sink := sink }
    let start' : Station := { monitor := { host := host' }, sink := sink' }
    let last := start.run (steps.map Station.Step.ofMonitor)
    let last' := start'.run (steps'.map Station.Step.ofMonitor)
    let records := Report.records (start.monitor.run steps).1
    let records' := Report.records (start'.monitor.run steps').1
    let m := last.2.monitor
    let m' := last'.2.monitor
    last.1 = last'.1 ∧ m.tally = m'.tally ∧
      (m.sampling.enabled = m'.sampling.enabled ∧ m.sampling.rate = m'.sampling.rate ∧
        m.sampling.decisions = m'.sampling.decisions) ∧
      (m.metrics.eventsSeen = m'.metrics.eventsSeen ∧
        m.metrics.eventsSampled = m'.metrics.eventsSampled ∧
        m.metrics.unresolvedObjects = m'.metrics.unresolvedObjects ∧
        m.metrics.recordsEmitted = m'.metrics.recordsEmitted) ∧
      (last.2.sink = sink.sendAll (records.map Record.payload) ∧
        last'.2.sink = sink'.sendAll (records'.map Record.payload)) ∧
      List.Forall₂ (fun r r' => r.className = r'.className ∧ r.count = r'.count)
        records records' := by
  intro start start' last last' records records' m m'
  have hfresh : start.monitor.CountsAlike start'.monitor := ⟨hobjects, ⟨rfl, rfl, rfl⟩, rfl⟩
  obtain ⟨hout, hrec, hafter⟩ := hfresh.run hsteps
  obtain ⟨a, t, hcharged⟩ := start.monitor.charged_run steps
  obtain ⟨a', t', hcharged'⟩ := start'.monitor.charged_run steps'
  obtain ⟨hlast, hmonitor, hsink⟩ := start.run_monitor steps
  obtain ⟨hlast', hmonitor', hsink'⟩ := start'.run_monitor steps'
  have hm : m = (start.monitor.run steps).2 := hmonitor
  have hm' : m' = (start'.monitor.run steps').2 := hmonitor'
  rw [← hm] at hafter hcharged
  rw [← hm'] at hafter hcharged'
  have hlength : records.length = records'.length := by
    simpa only [List.length_map] using congrArg List.length hrec
  refine ⟨?_, hafter.tally, ?_, hcharged.counters_eq hcharged' hout hlength, ⟨?_, ?_⟩, ?_⟩
  · rw [hlast, hlast', hout]
  · exact ⟨hafter.sampling.enabled, hafter.sampling.rate, hafter.sampling.decisions⟩
  · rw [hsink, Report.map_payload_records]
  · rw [hsink', Report.map_payload_records]
  · rw [← List.forall₂_eq_eq_eq, List.forall₂_map_left_iff, List.forall₂_map_right_iff] at hrec
    exact hrec.imp fun r r' heading => Prod.mk.inj heading

/-- The same objects as in `sharedLock`, and one thread without a stack of which nothing is
known. -/
def sharedLockElsewhere : Scenario :=
  { sharedLock with threads := [{ name := "", failStackTrace := true, failThreadInfo := true }] }

/-- One monitor is told of stacks and names and the other of nothing; their depths differ, and so do
the threads of their events. They count alike. -/
theorem counting_ignores_threads_elsewhere :
    let steps : List Monitor.Step :=
      [.event 0 0, .control (.settings ⟨true, 2, 3⟩), .event 0 1, .event 0 2, .control (.depth 0),
        .event 0 9, .event 0 0]
    let steps' : List Monitor.Step :=
      [.event 0 0, .control (.settings ⟨true, 2, 0⟩), .event 7 1, .event 1 2, .control (.depth 200),
        .event 0 9, .event 0 0]
    let start : Station :=
      { monitor := { host := { scenario := sharedLock } }, sink := .closure [] }
    let start' : Station :=
      { monitor := { host := { scenario := sharedLockElsewhere } }, sink := .closure [] }
    sharedLock.objects = sharedLockElsewhere.objects ∧
      List.Forall₂ Monitor.Step.Alike steps steps' ∧
      (start.run (steps.map Station.Step.ofMonitor)).1 =
        (start'.run (steps'.map Station.Step.ofMonitor)).1 ∧
      (start'.run (steps'.map Station.Step.ofMonitor)).1 =
        [.emitted 1, .notSampled, .emitted 2, .notSampled, .emitted 3] := by
  intro steps steps'
  have hsteps : List.Forall₂ Monitor.Step.Alike steps steps' :=
    .cons (.event ..) <| .cons (.control (.settings ..)) <| .cons (.event ..) <|
      .cons (.event ..) <| .cons (.control (.depth ..)) <| .cons (.event ..) <|
      .cons (.event ..) .nil
  obtain ⟨hout, -⟩ := @counting_ignores_threads { scenario := sharedLock }
    { scenario := sharedLockElsewhere } rfl (.closure []) (.closure []) steps steps' hsteps
  exact ⟨rfl, hsteps, hout, by decide⟩

end Contention
