import Contention.Proofs.Metrics

/-!
# The conduct of a host does not matter

A greedy host hands out whole stacks, however few frames it was asked for, and a leaky one takes no
buffer back. Neither shows in what a monitor does. `Host.Alike` relates two hosts that answer out of
the same scenario and have served equally many calls; their **conduct**, their buffers and what was
logged about these are left open. Every exchange keeps it and has the same result with both hosts.

There are two points where the hosts could come apart. A greedy host may hand out more methods than
were asked for, and `Host.capture_eq_scenario` cuts them down to the window before any of them is
resolved. A leaky host refuses each buffer that is given back, and `Host.alike_releaseAll` says that
nothing but the counter of buffers and the log depends on that.

`Monitor.Alike` lifts the relation to monitors, which then agree in everything but their hosts. It
is kept by each step (`Alike.control`, `Alike.observe`) and so by each run (`Alike.run`). The main
statement is `conduct_harmless`. It also bounds every stack that is reported: it has a frame, and no
more of them than the depth at its event.
-/

namespace Contention

namespace Host

/-! ### Windows of methods -/

/-- However many methods a host hands out, the first ones are those that were asked for. -/
private theorem map_take_stackTrace (h : Host) (thread : Nat) {most : Nat}
    (hmost : most ≤ maxDepth) :
    (h.stackTrace thread 0 most).1.map (List.take most) = h.scenario.stackTrace thread 0 most := by
  have hasked : most ≤ if h.conduct.greedy then UInt64.size - 1 else most := by
    have hfew : maxDepth ≤ UInt64.size - 1 := by decide
    split
    · exact Nat.le_trans hmost hfew
    · exact Nat.le_refl _
  rcases ht : h.scenario.threads[thread]? with _ | t
  · simp [stackTrace, serve, Scenario.stackTrace, Scenario.threadOf, ht, bind, Except.bind,
      Except.map]
  rcases hfail : t.failStackTrace with _ | _
  · have hwindow := take_map_window thread t.frames.length (Nat.le_refl most)
    have hlength : ((Scenario.window t.frames.length 0 most).map
        fun i => (⟨thread, i⟩ : Method)).length ≤ most := by
      rw [List.length_map, Scenario.window, List.length_range']
      omega
    rw [List.take_of_length_le hlength] at hwindow
    simp only [stackTrace, serve, Scenario.stackTrace, Scenario.threadOf, ht, hfail, bind,
      Except.bind, Except.map, Bool.false_eq_true, if_false]
    rw [take_map_window thread t.frames.length hasked, hwindow]
  · simp [stackTrace, serve, Scenario.stackTrace, Scenario.threadOf, ht, hfail, bind, Except.bind,
      Except.map]

/-- A capture resolves the methods of its window and no others, whatever the host hands out. -/
theorem capture_eq_scenario (h : Host) (thread : Nat) {depth : Nat} (hd : depth ≠ 0) :
    h.capture thread depth =
      match h.scenario.stackTrace thread 0 (min depth maxDepth) with
      | .error e => ⟨none, (h.stackTrace thread 0 (min depth maxDepth)).2, [.stackUnavailable e]⟩
      | .ok methods => (h.stackTrace thread 0 (min depth maxDepth)).2.describe methods := by
  rw [capture_eq h thread hd, ← h.map_take_stackTrace thread (Nat.min_le_right depth maxDepth)]
  rcases h.stackTrace thread 0 (min depth maxDepth) with ⟨e | methods, h'⟩ <;> rfl

/-! ### Hosts that are alike -/

/-- Two hosts that answer out of the same scenario and have served equally many calls. -/
structure Alike (h h' : Host) : Prop where
  scenario : h.scenario = h'.scenario
  calls : h.calls = h'.calls

theorem Alike.symm {h h' : Host} (a : Alike h h') : Alike h' h := ⟨a.scenario.symm, a.calls.symm⟩

theorem Alike.trans {h h' h'' : Host} (a : Alike h h') (a' : Alike h' h'') : Alike h h'' :=
  ⟨a.scenario.trans a'.scenario, a.calls.trans a'.calls⟩

/-- A call whose answer depends on the scenario alone is answered alike, whatever it lends, and
keeps hosts alike. -/
theorem Alike.serve {h h' : Host} (a : Alike h h') (lent : UInt64)
    (answer : Scenario → Except HostError α) :
    ∃ r g g', h.serve lent (answer h.scenario) = (r, g) ∧
      h'.serve lent (answer h'.scenario) = (r, g') ∧ Alike g g' := by
  have halike : Alike (h.serve lent (answer h.scenario)).2 (h'.serve lent (answer h'.scenario)).2 :=
    ⟨a.scenario, congrArg (· + 1) a.calls⟩
  refine ⟨answer h.scenario, _, _, rfl, ?_, halike⟩
  rw [a.scenario]
  rfl

/-- Giving buffers back, or failing to, leaves scenario and calls alone. -/
theorem alike_releaseAll (h : Host) (buffers : List Buffer) :
    Alike (h.releaseAll buffers).2 h := by
  induction buffers generalizing h with
  | nil => exact ⟨rfl, rfl⟩
  | cons b rest ih =>
    have hone : Alike (h.release b).2 h := by
      cases hl : h.conduct.leaky <;> constructor <;> simp [release, deallocate, hl]
    exact (ih (h.release b).2).trans hone

end Host

/-- Two exchanges that came to the same result and left hosts that are alike. -/
structure Exchange.Alike (e e' : Exchange α) : Prop where
  result : e.result = e'.result
  host : e.host.Alike e'.host

namespace Host.Alike

variable {h h' : Host}

theorem finish (a : Alike h h') (buffers : List Buffer) (result : α) :
    (h.finish buffers result).Alike (h'.finish buffers result) :=
  ⟨rfl, (h.alike_releaseAll buffers).trans (a.trans (h'.alike_releaseAll buffers).symm)⟩

theorem resolve (a : Alike h h') (m : Method) : (h.resolve m).Alike (h'.resolve m) := by
  obtain ⟨r, g, g', hname, hname', named⟩ := a.serve 2 (·.methodName m)
  rw [Host.resolve, Host.resolve, Host.methodName, Host.methodName, hname, hname']
  rcases r with e | ⟨name, signature⟩
  · exact ⟨rfl, named⟩
  obtain ⟨r, f, f', hclass, hclass', declared⟩ := named.serve 0 (·.declaringClass m)
  simp only [Host.declaringClass, hclass, hclass']
  rcases r with e | c
  · exact declared.finish [signature, name] _
  obtain ⟨r, k, k', hsig, hsig', signed⟩ := declared.serve 1 (·.classSignature c)
  simp only [Host.classSignature, hsig, hsig']
  rcases r with e | cls
  · exact signed.finish [signature, name] _
  · exact signed.finish [cls, signature, name] _

theorem resolveAll (a : Alike h h') (ms : List Method) :
    (h.resolveAll ms).Alike (h'.resolveAll ms) := by
  induction ms generalizing h h' with
  | nil => exact ⟨rfl, a⟩
  | cons m rest ih =>
    obtain ⟨hresult, hhost⟩ := a.resolve m
    rcases hr : h.resolve m with ⟨r, g, log⟩
    rcases hr' : h'.resolve m with ⟨r', g', log'⟩
    rw [hr, hr'] at hresult hhost
    obtain rfl : r = r' := hresult
    rw [Host.resolveAll, Host.resolveAll, hr, hr']
    rcases r with e | frame
    · exact ⟨rfl, hhost⟩
    · obtain ⟨hlater, hlast⟩ := ih hhost
      exact ⟨congrArg (fun later => (frame :: later.1, later.2)) hlater, hlast⟩

theorem describe (a : Alike h h') (ms : List Method) : (h.describe ms).Alike (h'.describe ms) := by
  obtain ⟨hresult, hhost⟩ := a.resolveAll ms
  refine ⟨?_, hhost⟩
  rw [Host.describe, Host.describe, hresult]

/-- **Captures** show the same of a stack and cost the same number of calls. -/
theorem capture (a : Alike h h') (thread depth : Nat) :
    (h.capture thread depth).Alike (h'.capture thread depth) := by
  by_cases hd : depth = 0
  · subst hd
    exact ⟨rfl, a⟩
  have hserved : Alike (h.stackTrace thread 0 (min depth maxDepth)).2
      (h'.stackTrace thread 0 (min depth maxDepth)).2 := ⟨a.scenario, congrArg (· + 1) a.calls⟩
  rw [capture_eq_scenario h thread hd, capture_eq_scenario h' thread hd, ← a.scenario]
  rcases h.scenario.stackTrace thread 0 (min depth maxDepth) with e | methods
  · exact ⟨rfl, hserved⟩
  · exact hserved.describe methods

end Host.Alike

/-! ### Parts of a record -/

/-- Two findings with the same value and the same metrics, after which the hosts are alike. -/
structure Finding.Alike (f f' : Finding α) : Prop where
  value : f.value = f'.value
  metrics : f.metrics = f'.metrics
  host : f.host.Alike f'.host

namespace Host.Alike

variable {h h' : Host}

theorem findStack (a : Alike h h') (m : Metrics) (depth thread : Nat) :
    (findStack h m depth thread).Alike (findStack h' m depth thread) := by
  obtain ⟨hresult, hhost⟩ := a.capture thread depth
  by_cases hd : depth = 0
  · subst hd
    exact ⟨rfl, rfl, a⟩
  · constructor <;> simp [Contention.findStack, hd, hresult, hhost]

theorem findThreadName (a : Alike h h') (m : Metrics) (thread : Nat) :
    (findThreadName h m thread).Alike (findThreadName h' m thread) := by
  obtain ⟨r, g, g', hinfo, hinfo', served⟩ := a.serve 1 (·.threadInfo thread)
  rw [Contention.findThreadName, Contention.findThreadName, Host.threadInfo, Host.threadInfo, hinfo,
    hinfo']
  rcases r with e | name
  · exact ⟨rfl, rfl, served⟩
  · exact ⟨rfl, rfl, (served.finish [name] ()).host⟩

theorem findOsThreadId (a : Alike h h') (m : Metrics) (thread : Nat) :
    (findOsThreadId h m thread).Alike (findOsThreadId h' m thread) := by
  obtain ⟨r, g, g', hid, hid', served⟩ := a.serve 0 (·.osThreadId thread)
  rw [Contention.findOsThreadId, Contention.findOsThreadId, Host.osThreadId, Host.osThreadId, hid,
    hid']
  rcases r with e | id <;> exact ⟨rfl, rfl, served⟩

end Host.Alike

/-! ### Monitors -/

/-- What a report says apart from its log. -/
def Report.said (r : Report) : Outcome × Option Record := (r.outcome, r.record)

/-- Two monitors that agree in everything but their hosts, which are alike. -/
structure Monitor.Alike (m m' : Monitor) : Prop where
  host : m.host.Alike m'.host
  sampling : m.sampling = m'.sampling
  tally : m.tally = m'.tally
  metrics : m.metrics = m'.metrics

namespace Monitor.Alike

variable {m m' : Monitor}

theorem control (a : Alike m m') (change : Control) :
    Alike (m.control change) (m'.control change) :=
  ⟨a.host, congrArg (·.control change) a.sampling, a.tally, a.metrics⟩

theorem describe (a : Alike m m') (name : String) (count : UInt64) (thread : Nat) :
    (m.describe name count thread).1.said = (m'.describe name count thread).1.said ∧
      Alike (m.describe name count thread).2 (m'.describe name count thread).2 := by
  obtain ⟨hframes, hmetrics, hhost⟩ := a.host.findStack m.metrics m.sampling.depth thread
  rw [Monitor.describe, Monitor.describe, ← a.metrics, ← a.sampling]
  generalize findStack m.host m.metrics m.sampling.depth thread = stack at hframes hmetrics hhost ⊢
  generalize findStack m'.host m.metrics m.sampling.depth thread = stack'
    at hframes hmetrics hhost ⊢
  obtain ⟨hname, hmetrics₁, hhost₁⟩ := hhost.findThreadName stack.metrics thread
  rw [← hmetrics, ← hframes]
  generalize findThreadName stack.host stack.metrics thread = found
    at hname hmetrics₁ hhost₁ ⊢
  generalize findThreadName stack'.host stack.metrics thread = found' at hname hmetrics₁ hhost₁ ⊢
  obtain ⟨hid, hmetrics₂, hhost₂⟩ := hhost₁.findOsThreadId found.metrics thread
  rw [← hmetrics₁, ← hname]
  refine ⟨?_, hhost₂, rfl, a.tally, congrArg Metrics.emitted hmetrics₂⟩
  rw [Report.said, Report.said, hid]

/-- **One event** is reported alike and leaves alike monitors. -/
theorem observe (a : Alike m m') (thread object : Nat) :
    (m.observe thread object).1.said = (m'.observe thread object).1.said ∧
      Alike (m.observe thread object).2 (m'.observe thread object).2 := by
  obtain ⟨r, g, g', hclass, hclass', served⟩ := a.host.serve 0 (·.objectClass object)
  simp only [Monitor.observe, Host.objectClass, Sampling.next, hclass, hclass', ← a.sampling,
    ← a.tally, ← a.metrics]
  split
  · rcases r with e | name
    · exact ⟨rfl, served, rfl, rfl, rfl⟩
    · refine describe ?_ name _ thread
      exact ⟨served, rfl, rfl, rfl⟩
  · exact ⟨rfl, a.host, rfl, rfl, rfl⟩

/-- **A run** is reported alike and leaves alike monitors. -/
theorem run (a : Alike m m') (steps : List Step) :
    (m.run steps).1.map Report.said = (m'.run steps).1.map Report.said ∧
      Alike (m.run steps).2 (m'.run steps).2 := by
  induction steps generalizing m m' with
  | nil => exact ⟨rfl, a⟩
  | cons first rest ih =>
    cases first with
    | control change => exact ih (a.control change)
    | event thread object =>
      obtain ⟨hsaid, hafter⟩ := a.observe thread object
      obtain ⟨ihsaid, ihafter⟩ := ih hafter
      rw [run_event, run_event]
      refine ⟨?_, ihafter⟩
      rw [List.map_cons, List.map_cons, hsaid, ihsaid]

end Monitor.Alike

/-! ### Bounds on stacks -/

/-- A stack that can be told has a frame, and no more frames than were asked for. -/
theorem Scenario.length_frames? {s : Scenario} {thread depth : Nat} {frames : List Frame}
    (h : s.frames? thread depth = some frames) :
    1 ≤ frames.length ∧ frames.length ≤ min depth maxDepth := by
  rcases ht : s.threads[thread]? with _ | t
  · simp [frames?, captured?, ht] at h
  · simp only [frames?, captured?, ht, Option.map_eq_some_iff] at h
    obtain ⟨stack, hstack, rfl⟩ := h
    split at hstack
    · cases hstack
    · next hsound =>
      obtain rfl := Option.some.inj hstack
      rw [not_or] at hsound
      refine ⟨?_, ?_⟩
      · rw [List.length_map]
        exact List.length_pos_of_ne_nil hsound.2
      · rw [List.length_map]
        exact Nat.le_trans (List.takeWhile_sublist _).length_le (List.length_take_le _ _)

/-- The stack of a report, if it has one, has a frame and at most `depth` of them, and never more
than `maxDepth`. -/
private def Report.StackWithin (depth : Nat) (r : Report) : Prop :=
  ∀ record ∈ r.record, ∀ frames ∈ record.stackTrace,
    1 ≤ frames.length ∧ frames.length ≤ min depth maxDepth

namespace Monitor

private theorem stackWithin_observe (m : Monitor) (thread object : Nat) :
    (m.observe thread object).1.StackWithin m.sampling.depth := by
  obtain ⟨-, -, hview⟩ := m.observe_spec thread object
  have hrecord := congrArg (fun view => view.2.1) hview
  intro record hrec frames hframes
  rw [Option.mem_def] at hrec hframes
  simp only [hrec] at hrecord
  split at hrecord
  · split at hrecord
    · cases hrecord
    · obtain rfl := Option.some.inj hrecord
      exact Scenario.length_frames? hframes
  · cases hrecord

/-- Every stack of a run stays within the depth at its event, which is the last one that was set
before. -/
theorem stackWithin_run {m : Monitor} {h : Reference.History}
    (hs : m.sampling = (Reference.sampling h).state) (steps : List Step) :
    List.Forall₂ Report.StackWithin
      (Reference.overEvents (fun h _ _ => (Reference.sampling h).depth) h steps)
      (m.run steps).1 := by
  induction steps generalizing m h with
  | nil => exact .nil
  | cons first rest ih =>
    cases first with
    | control change =>
      have hafter : (m.control change).sampling =
          (Reference.sampling (.control change :: h)).state := by
        rw [control, hs]
        exact Sampling.History.control_state _ change
      exact ih hafter
    | event thread object =>
      have hfirst := m.stackWithin_observe thread object
      obtain ⟨-, hnext, -⟩ := m.observe_spec thread object
      rw [hs] at hfirst hnext
      have hafter : (m.observe thread object).2.sampling =
          (Reference.sampling (.event thread object :: h)).state :=
        hnext.trans (Sampling.History.next_state _)
      rw [run_event]
      exact .cons hfirst (ih hafter)

end Monitor

/-! ### The main statement -/

/-- Reports that say the same have the same outcomes and the same records. -/
private theorem Report.eq_of_map_said {reports reports' : List Report}
    (h : reports.map said = reports'.map said) :
    reports.map outcome = reports'.map outcome ∧ records reports = records reports' := by
  have houtcomes := congrArg (List.map Prod.fst) h
  have hrecords := congrArg (List.filterMap Prod.snd) h
  rw [List.map_map, List.map_map] at houtcomes
  rw [List.filterMap_map, List.filterMap_map] at hrecords
  exact ⟨houtcomes, hrecords⟩

open Reference in
/-- **The conduct of a host is harmless.** Let fresh monitors run over the same scenario, with the
same sink and the same steps, over hosts of any two conducts: greedy or not, leaky or not. Then the
outcomes are the same, the sinks are handed the payloads of the same records, and at the end
metrics, tally, sampling and the number of calls served are the same. Every stack that is reported
has at least one frame and at most as many as the depth at its event, and never more than 128. -/
theorem conduct_harmless (s : Scenario) (sink : Sink) (steps : List Monitor.Step)
    (conduct conduct' : Conduct) :
    let start (c : Conduct) : Station :=
      { monitor := { host := { scenario := s, conduct := c } }, sink := sink }
    let last (c : Conduct) := (start c).run (steps.map Station.Step.ofMonitor)
    let reports (c : Conduct) := ((start c).monitor.run steps).1
    let m := (last conduct).2.monitor
    let m' := (last conduct').2.monitor
    (last conduct).1 = (last conduct').1 ∧
      (Report.records (reports conduct) = Report.records (reports conduct') ∧
        (last conduct).2.sink =
          sink.sendAll ((Report.records (reports conduct)).map Record.payload) ∧
        (last conduct).2.sink = (last conduct').2.sink) ∧
      m.metrics = m'.metrics ∧ m.tally = m'.tally ∧ m.sampling = m'.sampling ∧
      m.host.calls = m'.host.calls ∧
      List.Forall₂
        (fun depth (r : Report) => ∀ record ∈ r.record, ∀ frames ∈ record.stackTrace,
          1 ≤ frames.length ∧ frames.length ≤ min depth 128)
        (overEvents (fun h _ _ => (sampling h).depth) [] steps) (reports conduct) := by
  intro start last reports m m'
  have hfresh : (start conduct).monitor.Alike (start conduct').monitor :=
    ⟨⟨rfl, rfl⟩, rfl, rfl, rfl⟩
  obtain ⟨hsaid, hafter⟩ := hfresh.run steps
  obtain ⟨houtcomes, hrecords⟩ := Report.eq_of_map_said hsaid
  obtain ⟨hlast, hmonitor, hsink⟩ := (start conduct).run_monitor steps
  obtain ⟨hlast', hmonitor', hsink'⟩ := (start conduct').run_monitor steps
  rw [← Report.map_payload_records] at hsink hsink'
  rw [← hmonitor, ← hmonitor'] at hafter
  refine ⟨?_, ⟨hrecords, hsink, ?_⟩, hafter.metrics, hafter.tally, hafter.sampling,
    hafter.host.calls, Monitor.stackWithin_run rfl steps⟩
  · rw [hlast, hlast', houtcomes]
  · rw [hsink, hsink', hrecords]

/-- A thread with a stack of three frames. -/
def deepStack : Scenario where
  objects := [⟨"Lock", false⟩]
  threads :=
    [{ name := "main"
       frames :=
         [⟨"LA;", "a", "()V", none⟩, ⟨"LB;", "b", "()V", none⟩, ⟨"LC;", "c", "()V", none⟩] }]

/-- At depth two a greedy host hands out all three methods, and a leaky one is left with seven
buffers. The outcome and the number of calls are those of the ordinary host, and the stack that is
reported has two frames. -/
theorem conduct_harmless_deepStack :
    let steps : List Monitor.Step := [.control (.depth 2), .event 0 0]
    let bad : Conduct := { greedy := true, leaky := true }
    let start (c : Conduct) : Station :=
      { monitor := { host := { scenario := deepStack, conduct := c } }, sink := .closure [] }
    let last (c : Conduct) := (start c).run (steps.map Station.Step.ofMonitor)
    let handedOut (c : Conduct) := ((start c).monitor.host.stackTrace 0 0 2).1.map List.length
    (handedOut {} = .ok 2 ∧ handedOut bad = .ok 3) ∧
      ((last {}).2.monitor.host.outstanding = 0 ∧ (last bad).2.monitor.host.outstanding = 7) ∧
      (last {}).1 = (last bad).1 ∧
      (last {}).2.monitor.host.calls = (last bad).2.monitor.host.calls ∧
      (Report.records ((start bad).monitor.run steps).1).map
        (fun r => r.stackTrace.map List.length) = [some 2] := by
  intro steps bad start last handedOut
  obtain ⟨houtcomes, ⟨hrecords, -, -⟩, -, -, -, hcalls, -⟩ :=
    conduct_harmless deepStack (.closure []) steps {} bad
  refine ⟨⟨by decide, by decide⟩, ⟨by decide, by decide⟩, houtcomes, hcalls, ?_⟩
  rw [← hrecords]
  decide

end Contention
