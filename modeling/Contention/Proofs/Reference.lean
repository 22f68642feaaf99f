import Contention.Proofs.Monitor
import Contention.Proofs.Sampling
import Contention.Proofs.Station

/-!
# Runs and their reference

The reference says what becomes of an event **without running a monitor**. It knows the scenario and
looks back at the history of the run: which changes were made to the sampling, how many events there
were, and which of them were emitted under which type. Its numbers have no bound.

* An event is **admitted** if the switch is on and the number of events before it is a multiple of
  the rate.
* An admitted event whose type the scenario does not tell is **unresolved**.
* Any other admitted event is **emitted**. Its number is one more than the number of earlier events
  that were emitted under the same type, be it for the same object or for another one. Its record
  holds the type, this number, and what the scenario tells of the thread at the present depth.

`station_run_eq_reference` is the main statement: as long as there are fewer events than a 64-bit
word can count, a run of a fresh monitor has the outcomes of the reference, and the sink is handed
the payloads of its records and nothing else. The invariant behind it is `Reference.Agrees`.
-/

namespace Contention

namespace Reference

/-! ### The reference -/

/-- The steps of a run so far, the latest first. -/
abbrev History := List Monitor.Step

/-- What a step means to the sampling: each event takes a decision. -/
def samplingStep : Monitor.Step → Sampling.Step
  | .control change => .control change
  | .event .. => .decision

/-- The history of the sampling. -/
def sampling (h : History) : Sampling.History := h.map samplingStep

/-- How many of the events so far were emitted under a type. -/
def emitted (s : Scenario) (name : String) : History → Nat
  | [] => 0
  | .control _ :: earlier => emitted s name earlier
  | .event _ object :: earlier =>
    if (sampling earlier).admits ∧ s.className? object = some name then
      emitted s name earlier + 1
    else emitted s name earlier

/-- The number of the next event that is emitted under a type. -/
def number (s : Scenario) (name : String) (h : History) : Nat := 1 + emitted s name h

/-- What becomes of an event. -/
inductive Verdict where
  | notSampled
  | unresolved
  | emitted (number : Nat)
deriving DecidableEq, Repr

/-- The verdict on an event of an object after a history. -/
def verdict (s : Scenario) (h : History) (object : Nat) : Verdict :=
  if (sampling h).admits then
    match s.className? object with
    | none => .unresolved
    | some name => .emitted (number s name h)
  else .notSampled

/-- The record of an event after a history, if it is emitted. -/
def record? (s : Scenario) (h : History) (thread object : Nat) : Option Record :=
  if (sampling h).admits then
    (s.className? object).map fun name =>
      s.recordOf name (UInt64.ofNat (number s name h)) thread (sampling h).depth
  else none

/-- What a function of history, thread and object gives for the events among steps, in order. -/
def overEvents (f : History → Nat → Nat → α) : History → List Monitor.Step → List α
  | _, [] => []
  | h, .control change :: rest => overEvents f (.control change :: h) rest
  | h, .event thread object :: rest =>
    f h thread object :: overEvents f (.event thread object :: h) rest

/-- The verdicts on the events of a run. -/
def verdicts (s : Scenario) (steps : List Monitor.Step) : List Verdict :=
  overEvents (fun h _ object => verdict s h object) [] steps

/-- The records of a run. -/
def records (s : Scenario) (steps : List Monitor.Step) : List Record :=
  (overEvents (record? s) [] steps).filterMap id

/-- How many events there are among steps. -/
def events (steps : List Monitor.Step) : Nat := (sampling steps).decisions

end Reference

/-- An outcome with its number freed from the 64-bit word. -/
def Outcome.verdict : Outcome → Reference.Verdict
  | .notSampled => .notSampled
  | .unresolved => .unresolved
  | .emitted count => .emitted count.toNat

namespace Reference

/-! ### Numbers -/

@[simp]
theorem events_nil : events [] = 0 := rfl

@[simp]
theorem events_event (steps : List Monitor.Step) (thread object : Nat) :
    events (.event thread object :: steps) = events steps + 1 := by
  simp [events, sampling, samplingStep, Sampling.History.decisions]

@[simp]
theorem events_control (steps : List Monitor.Step) (change : Control) :
    events (.control change :: steps) = events steps := by
  simp [events, sampling, samplingStep, Sampling.History.decisions]

/-- No type is emitted more often than there are events. -/
private theorem emitted_le_events (s : Scenario) (name : String) (h : History) :
    emitted s name h ≤ events h := by
  fun_induction emitted s name h with
  | case1 => exact Nat.zero_le _
  | case2 change earlier ih => simpa using ih
  | case3 thread object earlier _ ih => simpa using ih
  | case4 thread object earlier _ ih =>
    rw [events_event]
    omega

/-! ### The invariant -/

/-- A monitor **agrees** with a history if its sampling and its tally are what the history says. -/
structure Agrees (s : Scenario) (h : History) (m : Monitor) : Prop where
  scenario : m.host.scenario = s
  sampling : m.sampling = (sampling h).state
  tally : ∀ name, m.tally.get name = UInt64.ofNat (emitted s name h)

/-- A fresh monitor agrees with the empty history. -/
private theorem agrees_fresh (host : Host) : Agrees host.scenario [] { host := host } :=
  ⟨rfl, rfl, fun _ => rfl⟩

variable {s : Scenario} {h : History} {m : Monitor}

theorem Agrees.control (ha : Agrees s h m) (change : Control) :
    Agrees s (.control change :: h) (m.control change) := by
  refine ⟨ha.scenario, ?_, ha.tally⟩
  rw [Monitor.control, ha.sampling]
  exact Sampling.History.control_state _ change

/-- The count under which an agreeing monitor records the next event of a type. -/
theorem Agrees.count (ha : Agrees s h m) (name : String) :
    (m.tally.record name).1 = UInt64.ofNat (number s name h) := by
  have hcount : (m.tally.record name).1 = (m.tally.record name).2.get name := rfl
  rw [hcount, Tally.get_record, if_pos rfl, ha.tally, number, Nat.add_comm, UInt64.ofNat_add]
  rfl

/-- An event leads from agreement to agreement, with the outcome and the record of the
reference. -/
theorem Agrees.observe (ha : Agrees s h m) (thread object : Nat)
    (hlt : events h + 1 < UInt64.size) :
    (m.observe thread object).1.outcome.verdict = verdict s h object ∧
      (m.observe thread object).1.record = record? s h thread object ∧
      Agrees s (.event thread object :: h) (m.observe thread object).2 := by
  obtain ⟨hkept, hnext, hview⟩ := m.observe_spec thread object
  have hsampling : (m.observe thread object).2.sampling =
      (Reference.sampling (.event thread object :: h)).state := by
    rw [hnext, ha.sampling]
    exact Sampling.History.next_state _
  have hadmits : m.sampling.admits = (Reference.sampling h).admits := by
    rw [ha.sampling]
    exact Sampling.History.admits_state (by rw [← events]; omega)
  rw [hadmits, ha.scenario] at hview
  rw [ha.scenario] at hkept
  -- the three ways an event can go, as in the reference
  rcases hadm : (Reference.sampling h).admits with _ | _ <;> rw [hadm] at hview
  · simp only [Bool.false_eq_true, if_false, Prod.mk.injEq] at hview
    obtain ⟨hout, hrec, htally⟩ := hview
    refine ⟨by simp [hout, Outcome.verdict, verdict, hadm], by simp [hrec, record?, hadm], hkept,
      hsampling, fun other => ?_⟩
    rw [htally, ha.tally, emitted, if_neg (by simp [hadm])]
  · rcases hname : s.className? object with _ | name
    · simp only [if_true, hname, Prod.mk.injEq] at hview
      obtain ⟨hout, hrec, htally⟩ := hview
      refine ⟨by simp [hout, Outcome.verdict, verdict, hadm, hname],
        by simp [hrec, record?, hadm, hname], hkept, hsampling, fun other => ?_⟩
      rw [htally, ha.tally, emitted, if_neg (by simp [hname])]
    · simp only [if_true, hname, Prod.mk.injEq] at hview
      obtain ⟨hout, hrec, htally⟩ := hview
      have hnumber : number s name h < UInt64.size := by
        have := emitted_le_events s name h
        rw [number]
        omega
      have hdepth : m.sampling.depth = (Reference.sampling h).depth := by
        rw [ha.sampling]
        rfl
      refine ⟨?_, ?_, hkept, hsampling, fun other => ?_⟩
      · simp [hout, ha.count, Outcome.verdict, verdict, hadm, hname,
          UInt64.toNat_ofNat_of_lt' hnumber]
      · simp [hrec, ha.count, record?, hadm, hname, hdepth]
      · rw [htally, Tally.get_record, ha.tally, emitted]
        by_cases ho : other = name
        · subst ho
          rw [if_pos rfl, if_pos ⟨hadm, hname⟩, UInt64.ofNat_add]
          rfl
        · rw [if_neg ho, if_neg (by simp [hname, Ne.symm ho])]

/-! ### Runs -/

/-- A run from agreement has the outcomes and the records of the reference. -/
theorem Agrees.run (ha : Agrees s h m) (steps : List Monitor.Step)
    (hlt : events h + events steps < UInt64.size) :
    (m.run steps).1.map (fun r => r.outcome.verdict) =
        overEvents (fun h _ object => verdict s h object) h steps ∧
      (m.run steps).1.map Report.record = overEvents (record? s) h steps := by
  induction steps generalizing h m with
  | nil => exact ⟨rfl, rfl⟩
  | cons first rest ih =>
    cases first with
    | control change =>
      rw [events_control] at hlt
      exact ih (ha.control change) (by rw [events_control]; exact hlt)
    | event thread object =>
      rw [events_event] at hlt
      obtain ⟨hverdict, hrecord, hafter⟩ := ha.observe thread object (by omega)
      obtain ⟨ihverdicts, ihrecords⟩ := ih hafter (by rw [events_event]; omega)
      constructor
      · simpa [Monitor.run, Monitor.step, overEvents, hverdict] using ihverdicts
      · simpa [Monitor.run, Monitor.step, overEvents, hrecord] using ihrecords

end Reference

open Reference in
/-- **Runs equal their reference.** For every accepted scenario, every fresh monitor over it with
any sink, and all steps with fewer than `2 ^ 64` events, the outcomes are the verdicts of the
reference and the sink is handed the payloads of its records, in order, and nothing else. In
particular a sink that keeps what it is handed ends with just these payloads. -/
theorem station_run_eq_reference {s : Scenario} {host : Host} (hs : Host.ofScenario s = .ok host)
    (sink : Sink) (steps : List Monitor.Step) (hlt : events steps < UInt64.size) :
    let start : Station := { monitor := { host := host }, sink := sink }
    let last := start.run (steps.map Station.Step.ofMonitor)
    let payloads := (records s steps).map Record.payload
    last.1.map Outcome.verdict = verdicts s steps ∧
      last.2.sink = sink.sendAll payloads ∧
      ∀ kept, sink = .closure kept → last.2.sink.output = .payloads (kept ++ payloads) := by
  intro start last payloads
  have hscenario : host.scenario = s := by
    rw [Host.ofScenario] at hs
    rcases hv : s.validate with d | _ <;> rw [hv] at hs
    · cases hs
    · cases hs
      rfl
  have hfresh : Agrees s [] start.monitor := hscenario ▸ agrees_fresh host
  obtain ⟨hverdicts, hrecords⟩ := hfresh.run steps (by simpa using hlt)
  obtain ⟨hout, -, hsink⟩ := start.run_monitor steps
  have hpayloads : (start.monitor.run steps).1.filterMap Station.payload? = payloads := by
    have hnone : payloads = ((start.monitor.run steps).1.map Report.record).filterMap
        fun r => r.map Record.payload := by
      rw [hrecords]
      exact List.map_filterMap
    rw [hnone, List.filterMap_map]
    rfl
  rw [hpayloads] at hsink
  refine ⟨?_, hsink, ?_⟩
  · rw [hout, verdicts, ← hverdicts, List.map_map]
    rfl
  · rintro kept rfl
    rw [hsink, Sink.sendAll_closure]
    rfl

/-- Two objects of one type and a third that fails; a thread whose second frame fails. -/
def sharedLock : Scenario where
  objects := [⟨"Lock", false⟩, ⟨"Gone", true⟩, ⟨"Lock", false⟩]
  threads :=
    [{ name := "main"
       osThreadId := some 7
       frames :=
         [⟨"LMain;", "run", "()V", none⟩, ⟨"LMain;", "main", "()V", some .classSignature⟩] }]

open Reference in
/-- Both objects share the count of their type, a rate of two keeps its phase over an event that is
not looked at, and neither a failing object nor one that does not exist is counted. -/
theorem station_run_eq_reference_sharedLock :
    let steps : List Monitor.Step :=
      [.event 0 0, .event 0 1, .event 5 2, .control (.settings ⟨false, 2, 200⟩), .event 0 0,
        .event 0 2, .event 0 9, .event 0 9]
    let expected : List Record :=
      [{ className := "Lock", count := 1, threadName := some "main", osThreadId := some 7 },
       { className := "Lock", count := 2 },
       { className := "Lock", count := 3, stackTrace := some [⟨"LMain;", "run", "()V"⟩],
         threadName := some "main", osThreadId := some 7 }]
    let start : Station :=
      { monitor := { host := { scenario := sharedLock } }, sink := .closure [] }
    let last := start.run (steps.map Station.Step.ofMonitor)
    last.1.map Outcome.verdict =
        [.emitted 1, .unresolved, .emitted 2, .notSampled, .emitted 3, .notSampled, .unresolved] ∧
      last.2.sink.output = .payloads (expected.map Record.payload) := by
  intro steps expected
  obtain ⟨hverdicts, -, hkept⟩ := @station_run_eq_reference
    sharedLock { scenario := sharedLock } rfl
    (.closure []) steps (by decide)
  have hrecords : records sharedLock steps = expected := by decide
  have houtput := hkept [] rfl
  rw [hrecords, List.nil_append] at houtput
  exact ⟨hverdicts.trans (by decide), houtput⟩

end Contention
