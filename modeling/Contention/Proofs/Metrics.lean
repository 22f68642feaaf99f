import Contention.Proofs.Reference
import Contention.Proofs.Tally

/-!
# The counters add up

Nine counters are raised at different points of an event, and an event may end early at several of
them. What they come to can still be read off from the **reports** of a run. `Metrics.Charged` says
what reports add to each counter. Two counters are not a matter of reports alone, how many stacks
were attempted and how many of them were cut short, and come as numbers of their own.

`Charged` holds of one event (`Monitor.charged_observe`), it is closed under putting runs one behind
the other (`Charged.append`), and so it holds of every run (`Monitor.charged_run`). Words are added
in it, so it needs no bound on the length of a run.

The main statement is `metrics_conserved`, for runs with fewer than `2 ^ 64` events. Only the soft
failures may then be more than a word can count, since a record may lose each of its three optional
parts: their equation is one between words, and one between numbers as long as the sum fits.
-/

namespace Contention

open Reference (events events_nil events_event events_control)

/-- The records of reports, in their order. -/
def Report.records (reports : List Report) : List Record := reports.filterMap Report.record

@[simp]
theorem Report.records_nil : records [] = [] := rfl

@[simp]
theorem Report.records_cons (r : Report) (rest : List Report) :
    records (r :: rest) = r.record.toList ++ records rest := by
  rcases hr : r.record with _ | record <;> simp [records, hr]

/-- The payloads of a run are those of its records. -/
theorem Report.map_payload_records (reports : List Report) :
    (records reports).map Record.payload = reports.filterMap Station.payload? :=
  List.map_filterMap

/-! ### Charges -/

namespace Metrics

/-- How many of the records have a stack. -/
def captured (records : List Record) : Nat := records.countP (·.stackTrace.isSome)

/-- How many names and ids of threads the records lack. -/
def missing (records : List Record) : Nat :=
  records.countP (·.threadName.isNone) + records.countP (·.osThreadId.isNone)

private theorem captured_singleton (r : Record) : captured [r] = r.stackTrace.isSome.toNat := by
  cases h : r.stackTrace.isSome <;> simp [captured, h]

private theorem missing_singleton (r : Record) :
    missing [r] = r.threadName.isNone.toNat + r.osThreadId.isNone.toNat := by
  cases hn : r.threadName.isNone <;> cases hi : r.osThreadId.isNone <;> simp [missing, hn, hi]

/-- What events with these reports add to the counters, if they make so many attempts at a stack and
so many of the stacks are cut short. -/
structure Charged (m : Metrics) (reports : List Report) (attempted truncated : Nat) (m' : Metrics) :
    Prop where
  eventsSeen : m'.eventsSeen = m.eventsSeen + .ofNat reports.length
  eventsSampled : m'.eventsSampled =
    m.eventsSampled + .ofNat (reports.countP (·.outcome ≠ .notSampled))
  unresolvedObjects : m'.unresolvedObjects =
    m.unresolvedObjects + .ofNat (reports.countP (·.outcome = .unresolved))
  recordsEmitted : m'.recordsEmitted = m.recordsEmitted + .ofNat (Report.records reports).length
  recordsDropped : m'.recordsDropped = m.recordsDropped
  stacksAttempted : m'.stacksAttempted = m.stacksAttempted + .ofNat attempted
  stacksCaptured : m'.stacksCaptured = m.stacksCaptured + .ofNat (captured (Report.records reports))
  stacksTruncated : m'.stacksTruncated = m.stacksTruncated + .ofNat truncated
  softFailures : m'.softFailures = m.softFailures +
    .ofNat (attempted - captured (Report.records reports) + truncated +
      missing (Report.records reports))
  /-- Each event that was sampled is unresolved or has a record. -/
  sampled_eq : reports.countP (·.outcome ≠ .notSampled) =
    reports.countP (·.outcome = .unresolved) + (Report.records reports).length
  truncated_le : truncated ≤ captured (Report.records reports)
  captured_le : captured (Report.records reports) ≤ attempted
  attempted_le : attempted ≤ (Report.records reports).length

theorem Charged.refl (m : Metrics) : Charged m [] 0 0 m := by
  constructor <;> simp [Report.records, captured, missing]

/-- Charges add up. -/
theorem Charged.append {m m' m'' : Metrics} {first later : List Report} {a a' t t' : Nat}
    (h : Charged m first a t m') (h' : Charged m' later a' t' m'') :
    Charged m (first ++ later) (a + a') (t + t') m'' := by
  have hrecords : Report.records (first ++ later) = Report.records first ++ Report.records later :=
    List.filterMap_append
  have hcaptured : captured (Report.records (first ++ later)) =
      captured (Report.records first) + captured (Report.records later) := by
    rw [hrecords, captured, List.countP_append, captured, captured]
  have hmissing : missing (Report.records (first ++ later)) =
      missing (Report.records first) + missing (Report.records later) := by
    simp only [hrecords, missing, List.countP_append]
    omega
  -- no attempt is lost in the difference, since neither part captures more than it attempts
  have hsoft : UInt64.ofNat (a + a' - captured (Report.records (first ++ later)) + (t + t') +
        missing (Report.records (first ++ later))) =
      .ofNat (a - captured (Report.records first) + t + missing (Report.records first)) +
        .ofNat (a' - captured (Report.records later) + t' + missing (Report.records later)) := by
    have := h.captured_le
    have := h'.captured_le
    rw [← UInt64.ofNat_add]
    congr 1
    omega
  constructor
  · rw [h'.eventsSeen, h.eventsSeen, List.length_append, UInt64.ofNat_add, UInt64.add_assoc]
  · rw [h'.eventsSampled, h.eventsSampled, List.countP_append, UInt64.ofNat_add, UInt64.add_assoc]
  · rw [h'.unresolvedObjects, h.unresolvedObjects, List.countP_append, UInt64.ofNat_add,
      UInt64.add_assoc]
  · rw [h'.recordsEmitted, h.recordsEmitted, hrecords, List.length_append, UInt64.ofNat_add,
      UInt64.add_assoc]
  · rw [h'.recordsDropped, h.recordsDropped]
  · rw [h'.stacksAttempted, h.stacksAttempted, UInt64.ofNat_add, UInt64.add_assoc]
  · rw [h'.stacksCaptured, h.stacksCaptured, hcaptured, UInt64.ofNat_add, UInt64.add_assoc]
  · rw [h'.stacksTruncated, h.stacksTruncated, UInt64.ofNat_add, UInt64.add_assoc]
  · rw [h'.softFailures, h.softFailures, hsoft, UInt64.add_assoc]
  · rw [List.countP_append, List.countP_append, h.sampled_eq, h'.sampled_eq, hrecords,
      List.length_append]
    omega
  · rw [hcaptured]
    exact Nat.add_le_add h.truncated_le h'.truncated_le
  · rw [hcaptured]
    exact Nat.add_le_add h.captured_le h'.captured_le
  · rw [hrecords, List.length_append]
    exact Nat.add_le_add h.attempted_le h'.attempted_le

/-- From nothing on, the soft failures are told by the other counters and the records. -/
private theorem Charged.softFailures_eq {m : Metrics} {reports : List Report} {a t : Nat}
    (h : Charged {} reports a t m) :
    m.softFailures = m.stacksAttempted - m.stacksCaptured + m.stacksTruncated +
      .ofNat ((Report.records reports).countP (·.threadName.isNone)) +
      .ofNat ((Report.records reports).countP (·.osThreadId.isNone)) := by
  rw [h.softFailures, h.stacksAttempted, h.stacksCaptured, h.stacksTruncated, missing]
  simp only [UInt64.ofNat_add, UInt64.ofNat_sub h.captured_le, UInt64.zero_add, UInt64.add_assoc]

/-- The counters after fewer than `2 ^ 64` events from nothing on, in numbers without a bound. The
soft failures are left out: there may be more of them than events. -/
structure Counted (m : Metrics) (reports : List Report) (attempted truncated : Nat) : Prop where
  eventsSeen : m.eventsSeen.toNat = reports.length
  eventsSampled : m.eventsSampled.toNat = reports.countP (·.outcome ≠ .notSampled)
  unresolvedObjects : m.unresolvedObjects.toNat = reports.countP (·.outcome = .unresolved)
  recordsEmitted : m.recordsEmitted.toNat = (Report.records reports).length
  stacksAttempted : m.stacksAttempted.toNat = attempted
  stacksCaptured : m.stacksCaptured.toNat = captured (Report.records reports)
  stacksTruncated : m.stacksTruncated.toNat = truncated

theorem Charged.counted {m : Metrics} {reports : List Report} {a t : Nat}
    (h : Charged {} reports a t m) (hlt : reports.length < UInt64.size) :
    m.Counted reports a t := by
  have hword {w : UInt64} {n : Nat} (hw : w = 0 + .ofNat n) (hn : n ≤ reports.length) :
      w.toNat = n := by
    rw [hw, UInt64.zero_add, UInt64.toNat_ofNat_of_lt' (Nat.lt_of_le_of_lt hn hlt)]
  have hsampled : reports.countP (·.outcome ≠ .notSampled) ≤ reports.length := List.countP_le_length
  have := h.sampled_eq
  have := h.truncated_le
  have := h.captured_le
  have := h.attempted_le
  exact ⟨hword h.eventsSeen (Nat.le_refl _), hword h.eventsSampled hsampled,
    hword h.unresolvedObjects (by omega), hword h.recordsEmitted (by omega),
    hword h.stacksAttempted (by omega), hword h.stacksCaptured (by omega),
    hword h.stacksTruncated (by omega)⟩

end Metrics

/-! ### One event -/

/-- What looking for a stack does to the counters: a stack is attempted or not, and only what is
captured can be cut short. -/
private theorem findStack_metrics (h : Host) (m : Metrics) (depth thread : Nat) :
    ∃ attempted truncated, truncated ≤ (findStack h m depth thread).value.isSome.toNat ∧
      (findStack h m depth thread).value.isSome.toNat ≤ attempted ∧ attempted ≤ 1 ∧
      (findStack h m depth thread).metrics =
        { m with
          stacksAttempted := m.stacksAttempted + .ofNat attempted
          stacksCaptured :=
            m.stacksCaptured + .ofNat (findStack h m depth thread).value.isSome.toNat
          stacksTruncated := m.stacksTruncated + .ofNat truncated
          softFailures := m.softFailures +
            .ofNat (attempted - (findStack h m depth thread).value.isSome.toNat + truncated) } := by
  by_cases hd : depth = 0
  · exact ⟨0, 0, by simp [findStack, hd]⟩
  rcases hc : h.capture thread depth with ⟨_ | ⟨frames, _ | _⟩, h', log⟩
  · exact ⟨1, 0, by simp [findStack, hd, hc, Metrics.stackAttempt, Metrics.softFailure]⟩
  · exact ⟨1, 0, by simp [findStack, hd, hc, Metrics.stackAttempt]⟩
  · exact ⟨1, 1, by simp [findStack, hd, hc, Metrics.stackAttempt, Metrics.softFailure]⟩

private theorem findThreadName_metrics (h : Host) (m : Metrics) (thread : Nat) :
    (findThreadName h m thread).metrics =
      { m with softFailures :=
          m.softFailures + .ofNat (findThreadName h m thread).value.isNone.toNat } := by
  rcases hi : h.threadInfo thread with ⟨e | name, h'⟩ <;>
    simp [findThreadName, hi, Metrics.softFailure]

private theorem findOsThreadId_metrics (h : Host) (m : Metrics) (thread : Nat) :
    (findOsThreadId h m thread).metrics =
      { m with softFailures :=
          m.softFailures + .ofNat (findOsThreadId h m thread).value.isNone.toNat } := by
  rcases hi : h.osThreadId thread with ⟨e | id, h'⟩ <;>
    simp [findOsThreadId, hi, Metrics.softFailure]

namespace Monitor

/-- What describing an event adds to the counters, told by its record. -/
private theorem describe_metrics (m : Monitor) (name : String) (count : UInt64) (thread : Nat) :
    ∃ record attempted truncated, (m.describe name count thread).1.record = some record ∧
      truncated ≤ Metrics.captured [record] ∧ Metrics.captured [record] ≤ attempted ∧
      attempted ≤ 1 ∧
      (m.describe name count thread).2.metrics =
        { m.metrics with
          recordsEmitted := m.metrics.recordsEmitted + 1
          stacksAttempted := m.metrics.stacksAttempted + .ofNat attempted
          stacksCaptured := m.metrics.stacksCaptured + .ofNat (Metrics.captured [record])
          stacksTruncated := m.metrics.stacksTruncated + .ofNat truncated
          softFailures := m.metrics.softFailures +
            .ofNat (attempted - Metrics.captured [record] + truncated +
              Metrics.missing [record]) } := by
  obtain ⟨attempted, truncated, htruncated, hcaptured, hattempted, hstack⟩ :=
    findStack_metrics m.host m.metrics m.sampling.depth thread
  rcases hs : findStack m.host m.metrics m.sampling.depth thread with ⟨frames, h₁, m₁, log₁⟩
  have hname := findThreadName_metrics h₁ m₁ thread
  rcases hn : findThreadName h₁ m₁ thread with ⟨threadName, h₂, m₂, log₂⟩
  have hid := findOsThreadId_metrics h₂ m₂ thread
  rcases hi : findOsThreadId h₂ m₂ thread with ⟨osThreadId, h₃, m₃, log₃⟩
  simp only [hs] at hstack htruncated hcaptured
  simp only [hn] at hname
  simp only [hi] at hid
  refine ⟨⟨name, count, frames, threadName, osThreadId⟩, attempted, truncated, ?_, ?_, ?_,
    hattempted, ?_⟩
  · simp [describe, hs, hn, hi]
  · rwa [Metrics.captured_singleton]
  · rwa [Metrics.captured_singleton]
  · have hmetrics : (m.describe name count thread).2.metrics = m₃.emitted := by
      simp [describe, hs, hn, hi]
    rw [hmetrics, hid, hname, hstack]
    simp [Metrics.emitted, Metrics.captured_singleton, Metrics.missing_singleton, UInt64.add_assoc]

/-- **One event** is charged as its report says. -/
theorem charged_observe (m : Monitor) (thread object : Nat) :
    ∃ attempted truncated, m.metrics.Charged [(m.observe thread object).1] attempted truncated
      (m.observe thread object).2.metrics := by
  rcases ha : m.sampling.admits with _ | _
  · refine ⟨0, 0, ?_⟩
    constructor <;> simp [observe, Sampling.next, ha, Metrics.event, Metrics.captured,
      Metrics.missing]
  rcases ho : m.host.objectClass object with ⟨e | name, host⟩
  · refine ⟨0, 0, ?_⟩
    constructor <;> simp [observe, Sampling.next, ha, ho, Metrics.event, Metrics.sampled,
      Metrics.unresolved, Metrics.captured, Metrics.missing]
  -- the event is described by the monitor that has counted it
  let counted : Monitor :=
    { m with
      sampling := m.sampling.next.2
      metrics := m.metrics.event.sampled
      host := host
      tally := (m.tally.record name).2 }
  have hobserve : m.observe thread object =
      counted.describe name (m.tally.record name).1 thread := by
    simp [observe, counted, Sampling.next, ha, ho]
  obtain ⟨record, attempted, truncated, hrecord, htruncated, hcaptured, hattempted, hmetrics⟩ :=
    counted.describe_metrics name (m.tally.record name).1 thread
  have hout := (counted.describe_spec name (m.tally.record name).1 thread).1
  refine ⟨attempted, truncated, ?_⟩
  rw [hobserve, hmetrics]
  rcases hd : (counted.describe name (m.tally.record name).1 thread).1 with ⟨outcome, record?, log⟩
  simp only [hd] at hrecord hout
  subst hrecord hout
  constructor <;> simp [counted, Metrics.event, Metrics.sampled, htruncated, hcaptured, hattempted]

/-! ### Runs -/

/-- **A run** is charged as its reports say. -/
theorem charged_run (m : Monitor) (steps : List Step) :
    ∃ attempted truncated, m.metrics.Charged (m.run steps).1 attempted truncated
      (m.run steps).2.metrics := by
  induction steps generalizing m with
  | nil => exact ⟨0, 0, .refl _⟩
  | cons first rest ih =>
    cases first with
    | control change => exact ih (m.control change)
    | event thread object =>
      obtain ⟨a, t, hfirst⟩ := m.charged_observe thread object
      obtain ⟨a', t', hrest⟩ := ih (m.observe thread object).2
      exact ⟨a + a', t + t', hfirst.append hrest⟩

/-- Each event has a report. -/
theorem length_run (m : Monitor) (steps : List Step) : (m.run steps).1.length = events steps := by
  induction steps generalizing m with
  | nil => rfl
  | cons first rest ih =>
    cases first with
    | control change => rw [run_control, ih, events_control]
    | event thread object =>
      rw [events_event, run_event, List.length_cons, ih]

/-- Each event takes a decision, and nothing else does. -/
theorem decisions_run (m : Monitor) (steps : List Step) :
    (m.run steps).2.sampling.decisions = m.sampling.decisions + .ofNat (events steps) := by
  induction steps generalizing m with
  | nil => simp [run]
  | cons first rest ih =>
    cases first with
    | control change =>
      have hsame : (m.control change).sampling.decisions = m.sampling.decisions :=
        m.sampling.decisions_control change
      rw [run_control, ih, hsame, events_control]
    | event thread object =>
      have hnext : (m.observe thread object).2.sampling.decisions = m.sampling.decisions + 1 := by
        rw [(m.observe_spec thread object).2.1]
        rfl
      rw [run_event, ih, hnext, events_event, UInt64.ofNat_add, UInt64.add_assoc,
        UInt64.add_comm 1]
      rfl

/-- An event that is emitted is counted in the tally, and no other one is. -/
private theorem total_observe {m : Monitor} (hlt : m.tally.total + 1 < UInt64.size)
    (thread object : Nat) :
    (m.observe thread object).2.tally.total =
      m.tally.total + (m.observe thread object).1.record.toList.length := by
  obtain ⟨-, -, hview⟩ := m.observe_spec thread object
  rcases ha : m.sampling.admits with _ | _ <;> rw [ha] at hview
  · simp only [Bool.false_eq_true, if_false, Prod.mk.injEq] at hview
    simp [hview]
  · rcases hname : m.host.scenario.className? object with _ | name <;>
      simp only [hname, if_true, Prod.mk.injEq] at hview
    · simp [hview]
    · simp [hview, Tally.total_record hlt]

/-- The records of a run are counted in the tally, and nothing else is. -/
theorem total_run {m : Monitor} {steps : List Step}
    (hlt : m.tally.total + events steps < UInt64.size) :
    (m.run steps).2.tally.total = m.tally.total + (Report.records (m.run steps).1).length := by
  induction steps generalizing m with
  | nil => rfl
  | cons first rest ih =>
    cases first with
    | control change =>
      rw [events_control] at hlt
      exact ih hlt
    | event thread object =>
      rw [events_event] at hlt
      have hfirst := total_observe (m := m) (by omega) thread object
      have hfew : (m.observe thread object).1.record.toList.length ≤ 1 := by
        cases (m.observe thread object).1.record <;> simp
      have hrest := ih (m := (m.observe thread object).2) (by omega)
      rw [run_event, Report.records_cons, List.length_append, ← Nat.add_assoc, ← hfirst, hrest]

end Monitor

/-! ### The main statement -/

open Metrics in
/-- **The counters add up.** After every run of a fresh monitor with fewer than `2 ^ 64` events, the
events seen are the decisions taken and the events of the run; they are the events that were not
sampled and those that were, and these are the unresolved ones and the records. Each record was
handed to the sink once and counted in the tally once, and none was dropped. Stacks were captured
for the records that have one; no more of them were cut short than captured, no more captured than
attempted, and no more attempted than there are records. The soft failures are the attempts that
captured nothing, the stacks cut short, and the names and ids that records lack; this is an equation
between words, and one between numbers unless the sum is too large for a word. -/
theorem metrics_conserved (host : Host) (sink : Sink) (steps : List Monitor.Step)
    (hlt : events steps < UInt64.size) :
    let start : Station := { monitor := { host := host }, sink := sink }
    let last := start.run (steps.map Station.Step.ofMonitor)
    let records := Report.records (start.monitor.run steps).1
    let m := last.2.monitor.metrics
    let nameless := records.countP (·.threadName.isNone)
    let idless := records.countP (·.osThreadId.isNone)
    let failures := m.stacksAttempted.toNat - m.stacksCaptured.toNat + m.stacksTruncated.toNat +
      nameless + idless
    last.2.sink = sink.sendAll (records.map Record.payload) ∧
      (m.eventsSeen.toNat = events steps ∧
        last.2.monitor.sampling.decisions.toNat = events steps) ∧
      m.eventsSeen.toNat = last.1.count .notSampled + m.eventsSampled.toNat ∧
      (m.eventsSampled.toNat = m.unresolvedObjects.toNat + m.recordsEmitted.toNat ∧
        m.recordsDropped = 0) ∧
      (m.recordsEmitted.toNat = records.length ∧
        m.recordsEmitted.toNat =
          (last.2.monitor.tally.snapshot.map fun e => e.2.toNat).sum) ∧
      m.stacksCaptured.toNat = records.countP (·.stackTrace.isSome) ∧
      (m.stacksTruncated ≤ m.stacksCaptured ∧ m.stacksCaptured ≤ m.stacksAttempted ∧
        m.stacksAttempted ≤ m.recordsEmitted) ∧
      m.softFailures = m.stacksAttempted - m.stacksCaptured + m.stacksTruncated +
        .ofNat nameless + .ofNat idless ∧
      (failures < UInt64.size → m.softFailures.toNat = failures) := by
  intro start last records m nameless idless failures
  obtain ⟨hout, hmonitor, hsink⟩ := start.run_monitor steps
  obtain ⟨attempted, truncated, hcharged⟩ := start.monitor.charged_run steps
  have hmetrics : m = (start.monitor.run steps).2.metrics := congrArg Monitor.metrics hmonitor
  rw [← hmetrics] at hcharged
  have hlength : (start.monitor.run steps).1.length = events steps := start.monitor.length_run steps
  have hcounted := hcharged.counted (by omega)
  have hemitted : m.recordsEmitted.toNat = records.length := hcounted.recordsEmitted
  have hsplit : (start.monitor.run steps).1.length = last.1.count .notSampled +
      (start.monitor.run steps).1.countP (·.outcome ≠ .notSampled) := by
    rw [hout, List.count, List.countP_map,
      List.length_eq_countP_add_countP fun r => decide (r.outcome = .notSampled)]
    simp only [decide_not, Bool.decide_eq_true]
    rfl
  have hdecisions : last.2.monitor.sampling.decisions = 0 + .ofNat (events steps) := by
    rw [hmonitor]
    exact start.monitor.decisions_run steps
  have htotal : last.2.monitor.tally.total = 0 + records.length := by
    rw [hmonitor]
    exact Monitor.total_run (by simpa [start, Tally.total] using hlt)
  refine ⟨?_, ⟨?_, ?_⟩, ?_, ⟨?_, hcharged.recordsDropped⟩, ⟨hemitted, ?_⟩, hcounted.stacksCaptured,
    ⟨?_, ?_, ?_⟩, hcharged.softFailures_eq, ?_⟩
  · rw [hsink, Report.map_payload_records]
  · rw [hcounted.eventsSeen, hlength]
  · rw [hdecisions, UInt64.zero_add, UInt64.toNat_ofNat_of_lt' hlt]
  · rw [hcounted.eventsSeen, hcounted.eventsSampled, hsplit]
  · rw [hcounted.eventsSampled, hcounted.unresolvedObjects, hemitted, hcharged.sampled_eq]
  · rw [Tally.sum_snapshot, htotal, Nat.zero_add, hemitted]
  · rw [UInt64.le_iff_toNat_le, hcounted.stacksTruncated, hcounted.stacksCaptured]
    exact hcharged.truncated_le
  · rw [UInt64.le_iff_toNat_le, hcounted.stacksAttempted, hcounted.stacksCaptured]
    exact hcharged.captured_le
  · rw [UInt64.le_iff_toNat_le, hcounted.stacksAttempted, hemitted]
    exact hcharged.attempted_le
  · intro hfits
    have hfailures : failures = attempted - captured records + truncated + missing records := by
      simp only [failures, hcounted.stacksAttempted, hcounted.stacksCaptured,
        hcounted.stacksTruncated, missing]
      exact Nat.add_assoc _ _ _
    have hsoft : m.softFailures = 0 + .ofNat failures := hfailures ▸ hcharged.softFailures
    rw [hsoft, UInt64.zero_add, UInt64.toNat_ofNat_of_lt' hfits]

/-- Five events: one of an object that fails, one that is not sampled, and three with a record, of
which one has no stack, no name and no id, and another a stack that is cut short. -/
theorem metrics_conserved_sharedLock :
    let steps : List Monitor.Step :=
      [.event 0 0, .event 0 1, .control (.settings ⟨true, 2, 200⟩), .event 5 2, .event 0 0,
        .event 0 2]
    let start : Station :=
      { monitor := { host := { scenario := sharedLock } }, sink := .closure [] }
    let last := start.run (steps.map Station.Step.ofMonitor)
    let m := last.2.monitor.metrics
    events steps < UInt64.size ∧ m.eventsSeen.toNat = 5 ∧
      m.eventsSeen.toNat = last.1.count .notSampled + m.eventsSampled.toNat ∧
      m.eventsSampled.toNat = m.unresolvedObjects.toNat + m.recordsEmitted.toNat ∧
      m.recordsEmitted.toNat = 3 ∧ m.stacksCaptured.toNat = 1 ∧ m.softFailures.toNat = 4 := by
  intro steps
  obtain ⟨-, ⟨hseen, -⟩, hsplit, ⟨hsampled, -⟩, ⟨hemitted, -⟩, hcaptured, -, -, hfailures⟩ :=
    metrics_conserved { scenario := sharedLock } (.closure []) steps (by decide)
  dsimp only
  refine ⟨by decide, hseen.trans (by decide), hsplit, hsampled, hemitted.trans (by decide),
    hcaptured.trans (by decide), ?_⟩
  exact (hfailures (by decide +kernel)).trans (by decide +kernel)

end Contention
