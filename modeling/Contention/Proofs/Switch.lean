import Mathlib.Tactic.Common
import Contention.CommandLine.Program
import Contention.Proofs.Monitor
import Contention.Proofs.Sampling
import Contention.Proofs.Station

/-!
# The master switch and the rate

Settings are pushed into a sampling state switch first and rate second, and **a positive rate turns
the switch on again**. So settings that turn the switch off keep events from being admitted exactly
if their rate turns it off as well. `switch_off_iff_rate` says this at three levels.

* Decisions: none is ever admitted exactly if the rate of the settings is not positive.
* Stations: the same holds of their events. No record is ever handed to the sink exactly if the rate
  is not positive or there is no object at all whose type can be told.
* The program with **one worker**, which takes the events in their order: with the flag that turns
  the switch off it prints nothing exactly if it fails, the rate it is given is not positive, or
  none of the events that the rate admits is of an object whose type can be told. With several
  workers it is open which events those are.

`noStackTrace_prints_record` is an invocation with this flag that prints a record.
-/

namespace Contention

/-! ### Settings -/

namespace Settings

/-- Whatever the switch of the settings, it is their rate that decides. -/
theorem enabled_apply (c : Settings) (s : Sampling) :
    (c.apply s).enabled = decide (0 < c.sampleRate) := by
  by_cases hrate : 0 < c.sampleRate <;> simp [apply, Sampling.setDepth, Sampling.setRate, hrate]

private theorem rate_apply {c : Settings} (hrate : 0 < c.sampleRate) (s : Sampling) :
    (c.apply s).rate = c.sampleRate := by
  simp [apply, Sampling.setDepth, Sampling.setRate, hrate]

/-- **Decisions after settings.** None is ever admitted exactly if the rate is not positive. -/
theorem never_admits_apply_iff (c : Settings) (s : Sampling) :
    (∀ k, ((c.apply s).after k).admits = false) ↔ c.sampleRate ≤ 0 := by
  rw [Sampling.never_admits_iff, enabled_apply, decide_eq_false_iff_not, Int.not_lt]
  refine ⟨?_, .inl⟩
  rintro (hrate | hstored)
  · exact hrate
  · by_contra hrate
    rw [rate_apply (Int.not_le.mp hrate)] at hstored
    exact hrate hstored

/-- The same for rows of decisions. -/
theorem take_apply_eq_nil_iff (c : Settings) (s : Sampling) :
    (∀ n, ((c.apply s).take n).1 = []) ↔ c.sampleRate ≤ 0 := by
  rw [← c.never_admits_apply_iff s]
  simp only [Sampling.take_eq_nil_iff]
  exact ⟨fun h k => h (k + 1) k (Nat.lt_succ_self k), fun h _ k _ => h k⟩

/-- Which decisions a new sampling state admits after settings. -/
private theorem admits_apply_new {c : Settings} (hrate : 0 < c.sampleRate) (k : Nat) :
    ((c.apply {}).after k).admits = true ↔ k % UInt64.size % c.sampleRate.toNat = 0 := by
  have hcount : ((c.apply {}).after k).decisions.toNat = k % UInt64.size := by
    have hnew : (c.apply {}).decisions = 0 := Sampling.decisions_control {} (.settings c)
    rw [Sampling.after, hnew, UInt64.zero_add, UInt64.toNat_ofNat']
  simp only [Sampling.admits, hcount, beq_iff_eq, Bool.and_eq_true, decide_eq_true_eq]
  simp only [Sampling.after, enabled_apply, rate_apply hrate, hrate, decide_true, true_and]

end Settings

/-! ### Events without a change in between -/

namespace Monitor

/-- The steps of some events. -/
def eventSteps (events : List (Nat × Nat)) : List Step := events.map fun e => .event e.1 e.2

/-- What becomes of each event, if nothing is changed in between: it is admitted if the decision at
its position is, and then it has a record if the type of its object can be told. -/
private theorem run_eventSteps (m : Monitor) (events : List (Nat × Nat)) (k : Nat) :
    (m.run (eventSteps events)).1[k]?.map
        (fun r => (decide (r.outcome ≠ .notSampled), r.record.isSome)) =
      events[k]?.map fun e =>
        ((m.sampling.after k).admits,
          (m.sampling.after k).admits && (m.host.scenario.className? e.2).isSome) := by
  induction events generalizing m k with
  | nil => simp [eventSteps, run]
  | cons e rest ih =>
    obtain ⟨hscenario, hsampling, hview⟩ := m.observe_spec e.1 e.2
    have hrun : (m.run (eventSteps (e :: rest))).1 =
        (m.observe e.1 e.2).1 :: ((m.observe e.1 e.2).2.run (eventSteps rest)).1 := rfl
    rw [hrun]
    cases k with
    | zero =>
      -- the three ways the first event can go
      rcases ha : m.sampling.admits with _ | _ <;> rw [ha] at hview
      · simp only [Bool.false_eq_true, if_false, Prod.mk.injEq] at hview
        simp [hview, ha]
      · rcases hname : m.host.scenario.className? e.2 with _ | name <;>
          simp only [hname, if_true, Prod.mk.injEq] at hview <;> simp [hview, ha, hname]
    | succ k =>
      have hlater := ih (m.observe e.1 e.2).2 k
      rw [hscenario, hsampling, Sampling.after_next] at hlater
      simpa using hlater

/-- Each event has its report. -/
private theorem report_of_event {m : Monitor} {events : List (Nat × Nat)} {k : Nat} {e : Nat × Nat}
    (he : events[k]? = some e) :
    ∃ r ∈ (m.run (eventSteps events)).1,
      decide (r.outcome ≠ .notSampled) = (m.sampling.after k).admits ∧
        r.record.isSome =
          ((m.sampling.after k).admits && (m.host.scenario.className? e.2).isSome) := by
  have hview := m.run_eventSteps events k
  rw [he, Option.map_some, Option.map_eq_some_iff] at hview
  obtain ⟨r, hr, hr'⟩ := hview
  rw [Prod.mk.injEq] at hr'
  exact ⟨r, List.mem_iff_getElem?.mpr ⟨k, hr⟩, hr'⟩

/-- Each report has its event. -/
private theorem event_of_report {m : Monitor} {events : List (Nat × Nat)} {r : Report}
    (hr : r ∈ (m.run (eventSteps events)).1) :
    ∃ k e, events[k]? = some e ∧
      decide (r.outcome ≠ .notSampled) = (m.sampling.after k).admits ∧
        r.record.isSome =
          ((m.sampling.after k).admits && (m.host.scenario.className? e.2).isSome) := by
  obtain ⟨k, hk⟩ := List.mem_iff_getElem?.mp hr
  have hview := m.run_eventSteps events k
  rw [hk, Option.map_some, eq_comm, Option.map_eq_some_iff] at hview
  obtain ⟨e, he, hr'⟩ := hview
  rw [Prod.mk.injEq] at hr'
  exact ⟨k, e, he, hr'.1.symm, hr'.2.symm⟩

/-- No event is admitted exactly if no decision is. -/
private theorem notSampled_eventSteps_iff (m : Monitor) (events : List (Nat × Nat)) :
    (∀ r ∈ (m.run (eventSteps events)).1, r.outcome = .notSampled) ↔
      ∀ k < events.length, (m.sampling.after k).admits = false := by
  constructor
  · intro hall k hk
    obtain ⟨r, hr, hadmits, -⟩ := report_of_event (m := m) (List.getElem?_eq_getElem hk)
    rw [← hadmits]
    exact decide_eq_false (not_not_intro (hall r hr))
  · intro hnever r hr
    obtain ⟨k, e, he, hadmits, -⟩ := event_of_report hr
    obtain ⟨hk, -⟩ := List.getElem?_eq_some_iff.mp he
    rw [hnever k hk, decide_eq_false_iff_not, not_not] at hadmits
    exact hadmits

/-- No payload is made exactly if no admitted event is of an object whose type can be told. -/
private theorem payloads_eventSteps_iff (m : Monitor) (events : List (Nat × Nat)) :
    (m.run (eventSteps events)).1.filterMap Station.payload? = [] ↔
      ∀ k e, events[k]? = some e → (m.sampling.after k).admits = true →
        m.host.scenario.className? e.2 = none := by
  have hpayload (r : Report) : Station.payload? r = none ↔ r.record.isSome = false := by
    rw [Station.payload?, Option.map_eq_none_iff, Option.isSome_eq_false_iff,
      Option.isNone_iff_eq_none]
  rw [List.filterMap_eq_nil_iff]
  constructor
  · intro hall k e he hadmits
    obtain ⟨r, hr, -, hrecord⟩ := report_of_event (m := m) he
    rw [(hpayload r).mp (hall r hr), hadmits, Bool.true_and, eq_comm] at hrecord
    rwa [Option.isSome_eq_false_iff, Option.isNone_iff_eq_none] at hrecord
  · intro hnone r hr
    obtain ⟨k, e, he, -, hrecord⟩ := event_of_report hr
    rw [hpayload, hrecord]
    rcases ha : (m.sampling.after k).admits with _ | _
    · rfl
    · rw [hnone k e he ha]
      rfl

/-- No events at all are ever admitted exactly if no decision is. -/
theorem never_sampled_iff (m : Monitor) :
    (∀ events, ∀ r ∈ (m.run (eventSteps events)).1, r.outcome = .notSampled) ↔
      ∀ k, (m.sampling.after k).admits = false := by
  simp only [notSampled_eventSteps_iff]
  constructor
  · intro hnever k
    exact hnever (List.replicate (k + 1) (0, 0)) k (by simp)
  · intro hnever events k _
    exact hnever k

/-- No events ever make a payload exactly if no decision is admitted or no type can be told. -/
theorem never_payload_iff (m : Monitor) :
    (∀ events, (m.run (eventSteps events)).1.filterMap Station.payload? = []) ↔
      (∀ k, (m.sampling.after k).admits = false) ∨
        ∀ object, m.host.scenario.className? object = none := by
  simp only [payloads_eventSteps_iff]
  constructor
  · intro hnever
    by_cases hadmits : ∃ k, (m.sampling.after k).admits = true
    · obtain ⟨k, hk⟩ := hadmits
      -- any object can be that of the event at this position
      refine .inr fun object => ?_
      have hlast : (List.replicate (k + 1) (0, object))[k]? = some (0, object) := by
        rw [List.getElem?_replicate, if_pos (Nat.lt_succ_self k)]
      exact hnever _ k (0, object) hlast hk
    · refine .inl fun k => ?_
      rw [← Bool.not_eq_true]
      exact fun hk => hadmits ⟨k, hk⟩
  · rintro (hnever | hnone) events k e _ hk
    · rw [hnever k] at hk
      cases hk
    · exact hnone e.2

end Monitor

namespace Station

private theorem ofMonitor_eventSteps (events : List (Nat × Nat)) :
    (Monitor.eventSteps events).map Step.ofMonitor = events.map fun e => .event e.1 e.2 := by
  rw [Monitor.eventSteps, List.map_map]
  rfl

/-- Events without a change in between, seen at the sink and at the outcomes. -/
theorem run_events (m : Monitor) (kept : List String) (events : List (Nat × Nat)) :
    let last := run { monitor := m, sink := .closure kept } (events.map fun e => .event e.1 e.2)
    last.1 = (m.run (Monitor.eventSteps events)).1.map Report.outcome ∧
      last.2.sink =
        .closure (kept ++ (m.run (Monitor.eventSteps events)).1.filterMap payload?) := by
  intro last
  obtain ⟨hout, -, hsink⟩ := run_monitor { monitor := m, sink := .closure kept }
    (Monitor.eventSteps events)
  rw [ofMonitor_eventSteps] at hout hsink
  exact ⟨hout, hsink.trans (Sink.sendAll_closure _ _)⟩

end Station

/-! ### The program -/

namespace CommandLine

/-- A replay prints one line for each payload of its events. -/
theorem Plan.output_replay (p : Plan) (h : Host) :
    (p.replay h).output =
      ((Monitor.run { host := h, sampling := p.settings.apply {} }
        (Monitor.eventSteps h.events)).1.filterMap Station.payload?).flatMap
          fun payload => Writer.encode payload ++ [10] := by
  let start : Station :=
    { monitor := { host := h, sampling := p.settings.apply {} }, sink := .writer {} }
  have hscript : start.script = (Monitor.eventSteps h.events).map Station.Step.ofMonitor :=
    (Station.ofMonitor_eventSteps h.events).symm
  obtain ⟨-, -, hsink⟩ := start.run_monitor (Monitor.eventSteps h.events)
  rw [← hscript, Sink.sendAll_writer, List.nil_append] at hsink
  have hlast : start.replay.sink = _ := hsink
  rw [Plan.replay, hlast]
  rfl

/-- A replay prints nothing exactly if its rate is not positive or none of the events that are
admitted is of an object whose type can be told. -/
theorem Plan.output_replay_eq_nil_iff (p : Plan) (h : Host) :
    (p.replay h).output = [] ↔
      p.settings.sampleRate ≤ 0 ∨
        ∀ k e, h.events[k]? = some e → k % UInt64.size % p.settings.sampleRate.toNat = 0 →
          h.scenario.className? e.2 = none := by
  -- every line ends with a line feed, so only no line at all is empty
  have hlines (payloads : List String) :
      (payloads.flatMap fun payload => Writer.encode payload ++ [10]) = [] ↔ payloads = [] := by
    cases payloads <;> simp
  rw [p.output_replay, hlines, Monitor.payloads_eventSteps_iff]
  by_cases hrate : 0 < p.settings.sampleRate
  · simp only [Settings.admits_apply_new hrate, Int.not_le.mpr hrate, false_or]
  · have hnever := (p.settings.never_admits_apply_iff {}).mpr (Int.not_lt.mp hrate)
    simp [hnever, Int.not_lt.mp hrate]

/-- What the program prints with arguments that make an invocation: nothing if it fails. -/
theorem output_run_eq_nil_iff {args : List String} {i : Invocation} (hparse : parse args = .ok i)
    (env : Environment) (files : String → Except FileError ByteArray) :
    (run env files args).output = [] ↔
      ∀ p h, i.plan env = .ok p → p.host (files p.path) = .ok h → (p.replay h).output = [] := by
  rcases hplan : i.plan env with failure | p
  · simp [run, planOf, hparse, hplan, Failure.exit]
  · rcases hhost : p.host (files p.path) with failure | h
    · have hrun : (run env files args).output = [] := by
        simp [run, planOf, hparse, hplan, Plan.exit, Plan.run, hhost, Except.map, Failure.exit]
      -- there is no replay of which anything could be asked
      refine iff_of_true hrun ?_
      rintro _ h ⟨⟩ hok
      rw [hhost] at hok
      cases hok
    · have hrun : (run env files args).output = (p.replay h).output := by
        simp [run, planOf, hparse, hplan, Plan.exit, Plan.run, hhost, Except.map, Replayed.exit]
      rw [hrun]
      refine ⟨?_, fun hall => hall p h rfl hhost⟩
      rintro hnone _ h' ⟨⟩ hok
      rw [hhost] at hok
      cases hok
      exact hnone

end CommandLine

/-! ### The main statement -/

open CommandLine in
/-- **The switch holds exactly if the rate is not positive.** Let settings turn the switch off. No
decision after them is ever admitted, and no event, exactly if their rate is not positive. No
record is ever handed to the sink exactly if their rate is not positive or no type of an object can
be told. A program with one worker and the flag that turns the switch off prints nothing exactly if
it fails, its rate is not positive, or no event at a position that the rate admits is of an object
whose type can be told. -/
theorem switch_off_iff_rate (c : Settings) (s : Sampling) (m : Monitor) (kept : List String) :
    let off : Settings := { c with stackTrace := false }
    ((∀ n, ((off.apply s).take n).1 = []) ↔ c.sampleRate ≤ 0) ∧
    (let start : Station := Station.control { monitor := m, sink := .closure kept } (.settings off)
     let run (events : List (Nat × Nat)) := start.run (events.map fun e => .event e.1 e.2)
     ((∀ events, ∀ o ∈ (run events).1, o = .notSampled) ↔ c.sampleRate ≤ 0) ∧
       ((∀ events, (run events).2.sink = .closure kept) ↔
         c.sampleRate ≤ 0 ∨ ∀ object, m.host.scenario.className? object = none)) ∧
    ∀ (env : Environment) (files : String → Except FileError ByteArray) (args : List String)
      (i : Invocation), parse args = .ok { i with noStackTrace := true } → i.jobs ≤ 1 →
      ((run env files args).output = [] ↔
        ∀ p h, { i with noStackTrace := true }.plan env = .ok p → p.host (files p.path) = .ok h →
          p.settings.sampleRate ≤ 0 ∨
            ∀ k e, h.events[k]? = some e → k % UInt64.size % p.settings.sampleRate.toNat = 0 →
              h.scenario.className? e.2 = none) := by
  intro off
  refine ⟨off.take_apply_eq_nil_iff s, ?_, ?_⟩
  · intro start run
    have hadmits : (∀ k, (start.monitor.sampling.after k).admits = false) ↔ c.sampleRate ≤ 0 :=
      off.never_admits_apply_iff m.sampling
    rw [← hadmits]
    refine ⟨Iff.trans (forall_congr' fun events => ?_) start.monitor.never_sampled_iff,
      Iff.trans (forall_congr' fun events => ?_) start.monitor.never_payload_iff⟩
    · have hout : (run events).1 = _ := (Station.run_events start.monitor kept events).1
      rw [hout, List.forall_mem_map]
    · have hsink : (run events).2.sink = _ := (Station.run_events start.monitor kept events).2
      rw [hsink, Sink.closure.injEq, List.append_right_eq_self]
  · intro env files args i hparse _
    rw [output_run_eq_nil_iff hparse]
    simp only [Plan.output_replay_eq_nil_iff]

/-- The text of a scenario with one event, of an object whose type can be told. -/
def oneEvent : String :=
  "\x7b\"objects\":[\x7b\"class\":\"a.B\"\x7d],\"threads\":[\x7b\"name\":\"t\"\x7d]," ++
    "\"events\":[\x7b\"thread\":0,\"object\":0\x7d]\x7d"

open CommandLine in
/-- With a rate of zero the switch holds, in the program too; with a rate of seven it does not, even
though the next multiple of seven is still to come. -/
theorem switch_off_iff_rate_zero_seven :
    (∀ n, ((Settings.apply ⟨false, 0, 5⟩ { decisions := 3 }).take n).1 = []) ∧
      (¬ ∀ n, ((Settings.apply ⟨false, 7, 5⟩ { decisions := 3 }).take n).1 = []) ∧
      (run (fun _ => none) (fun _ => .ok oneEvent.toUTF8)
        ["replay", "s.json", "--no-stack-trace", "--sample-rate", "0"]).output = [] := by
  obtain ⟨hzero, -, hprogram⟩ := switch_off_iff_rate ⟨true, 0, 5⟩ { decisions := 3 }
    { host := default } []
  obtain ⟨hseven, -⟩ := switch_off_iff_rate ⟨true, 7, 5⟩ { decisions := 3 } { host := default } []
  refine ⟨hzero.mpr (by decide), fun hnever => absurd (hseven.mp hnever) (by decide), ?_⟩
  refine (hprogram (fun _ => none) (fun _ => .ok oneEvent.toUTF8) _
    { scenario := "s.json", sampleRate := some 0 } rfl (by decide)).mpr ?_
  rintro p h hplan -
  obtain rfl : p = ⟨"s.json", ⟨false, 0, 0⟩, 1⟩ := by
    cases hplan
    rfl
  exact .inl (Int.le_refl 0)

open CommandLine in
/-- **The flag does not keep its promise.** Settings that turn the switch off admit the first
event, and the program prints it although the flag asks for a monitor that is switched off. -/
theorem noStackTrace_prints_record :
    let args := ["replay", "s.json", "--no-stack-trace"]
    (Settings.apply ⟨false, 1, 0⟩ {}).admits = true ∧
      parse args = .ok { scenario := "s.json", noStackTrace := true } ∧
      (run (fun _ => none) (fun _ => .ok oneEvent.toUTF8) args).output =
        Writer.encode
          "\x7b\"Class\":\"a.B\",\"numTypeContentions\":1,\"threadName\":\"t\"\x7d\n" := by
  decide +kernel

end Contention
