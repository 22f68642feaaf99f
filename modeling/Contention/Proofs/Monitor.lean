import Contention.Monitor
import Contention.Proofs.Stack

/-!
# What an event does to a monitor

`Monitor.observe` talks to the host, counts, and keeps metrics and a log. Its **outcome**, its
**record** and the **tally** afterwards depend on little of that: on the sampling decision, on the
scenario behind the host, and on the tally before. `Monitor.observe_spec` says how; calls served,
buffers lent, conduct, metrics and log do not occur in it. The later modules use it and do not
look into `observe`.

What a scenario can tell about objects and threads is put together first, without host calls:
`Scenario.className?`, `threadName?` and `osThreadId?` beside `captured?`.
-/

namespace Contention

/-! ### What a scenario can tell -/

namespace Scenario

/-- The type of an object, unless the object does not exist or a failure is planted in it. -/
def className? (s : Scenario) (object : Nat) : Option String :=
  s.objects[object]?.bind fun o => if o.fail then none else some o.className

/-- The name of a thread, unless the thread does not exist or its information fails. -/
def threadName? (s : Scenario) (thread : Nat) : Option String :=
  s.threads[thread]?.bind fun t => if t.failThreadInfo then none else some t.name

/-- The id of a thread in the operating system, if the thread exists and has one. -/
def osThreadId? (s : Scenario) (thread : Nat) : Option Int64 :=
  s.threads[thread]?.bind ScriptedThread.osThreadId

/-- The frames that a record shows for a thread, at most `depth` of them. -/
def frames? (s : Scenario) (thread depth : Nat) : Option (List Frame) :=
  (s.captured? thread depth).map CapturedStack.frames

theorem toOption_objectClass (s : Scenario) (object : Nat) :
    (s.objectClass object).toOption = s.className? object := by
  rcases ho : s.objects[object]? with _ | o
  · simp [objectClass, className?, ho, Except.toOption]
  · cases hf : o.fail <;> simp [objectClass, className?, ho, hf, Except.toOption]

private theorem toOption_threadInfo (s : Scenario) (thread : Nat) :
    (s.threadInfo thread).toOption.map Buffer.text = s.threadName? thread := by
  rcases ht : s.threads[thread]? with _ | t
  · simp [threadInfo, threadOf, threadName?, ht, Except.toOption, bind, Except.bind]
  · cases hf : t.failThreadInfo <;>
      simp [threadInfo, threadOf, threadName?, ht, hf, Except.toOption, bind, Except.bind]

private theorem toOption_osThreadId (s : Scenario) (thread : Nat) :
    (s.osThreadId thread).toOption = s.osThreadId? thread := by
  rcases ht : s.threads[thread]? with _ | t
  · simp [osThreadId, threadOf, osThreadId?, ht, Except.toOption, bind, Except.bind]
  · rcases hid : t.osThreadId with _ | id <;>
      simp [osThreadId, threadOf, osThreadId?, ht, hid, Except.toOption, bind, Except.bind]

end Scenario

/-! ### The parts of a record -/

private theorem findStack_spec (h : Host) (m : Metrics) (depth thread : Nat) :
    (findStack h m depth thread).value = h.scenario.frames? thread depth ∧
      (findStack h m depth thread).host.scenario = h.scenario := by
  obtain ⟨hresult, hkept⟩ := h.capture_spec thread depth
  by_cases hd : depth = 0
  · subst hd
    -- at depth zero no capture is made; one would have come to nothing
    have hnone : (h.capture thread 0).result = none := rfl
    simp [findStack, Scenario.frames?, ← hresult, hnone]
  · simp [findStack, hd, hresult, hkept, Scenario.frames?]

private theorem findThreadName_spec (h : Host) (m : Metrics) (thread : Nat) :
    (findThreadName h m thread).value = h.scenario.threadName? thread ∧
      (findThreadName h m thread).host.scenario = h.scenario := by
  have htold := h.scenario.toOption_threadInfo thread
  rcases hi : h.scenario.threadInfo thread with e | name <;> rw [hi] at htold
  · simp [findThreadName, Host.threadInfo, Host.serve, hi, ← htold, Except.toOption]
  · simp [findThreadName, Host.threadInfo, Host.serve, hi, ← htold, Except.toOption]

private theorem findOsThreadId_spec (h : Host) (m : Metrics) (thread : Nat) :
    (findOsThreadId h m thread).value = h.scenario.osThreadId? thread ∧
      (findOsThreadId h m thread).host.scenario = h.scenario := by
  have htold := h.scenario.toOption_osThreadId thread
  rcases hi : h.scenario.osThreadId thread with e | id <;> rw [hi] at htold
  · simp [findOsThreadId, Host.osThreadId, Host.serve, hi, ← htold, Except.toOption]
  · simp [findOsThreadId, Host.osThreadId, Host.serve, hi, ← htold, Except.toOption]

/-! ### Events -/

/-- The record of an event: its type and number, and what the scenario can tell of its thread. -/
def Scenario.recordOf (s : Scenario) (name : String) (count : UInt64) (thread depth : Nat) :
    Record where
  className := name
  count := count
  stackTrace := s.frames? thread depth
  threadName := s.threadName? thread
  osThreadId := s.osThreadId? thread

namespace Monitor

theorem describe_spec (m : Monitor) (name : String) (count : UInt64) (thread : Nat) :
    (m.describe name count thread).1.outcome = .emitted count ∧
      (m.describe name count thread).1.record =
        some (m.host.scenario.recordOf name count thread m.sampling.depth) ∧
      (m.describe name count thread).2.host.scenario = m.host.scenario ∧
      (m.describe name count thread).2.sampling = m.sampling ∧
      (m.describe name count thread).2.tally = m.tally := by
  obtain ⟨hframes, hkept⟩ := findStack_spec m.host m.metrics m.sampling.depth thread
  rcases hstack : findStack m.host m.metrics m.sampling.depth thread with ⟨frames, h₁, m₁, log₁⟩
  rw [hstack] at hframes hkept
  obtain ⟨hname, hkept₁⟩ := findThreadName_spec h₁ m₁ thread
  rcases hinfo : findThreadName h₁ m₁ thread with ⟨threadName, h₂, m₂, log₂⟩
  rw [hinfo] at hname hkept₁
  obtain ⟨hid, hkept₂⟩ := findOsThreadId_spec h₂ m₂ thread
  simp only at hframes hkept hname hkept₁
  simp [describe, Scenario.recordOf, hstack, hinfo, hid, hkept₂, hframes, hname, hkept₁, hkept]

/-- **What an event does.** A decision is taken in any case and the scenario stays. An event that is
not admitted, or whose type cannot be told, leaves the tally alone; any other one is counted under
its type and described under its new count. -/
theorem observe_spec (m : Monitor) (thread object : Nat) :
    (m.observe thread object).2.host.scenario = m.host.scenario ∧
      (m.observe thread object).2.sampling = m.sampling.next.2 ∧
      ((m.observe thread object).1.outcome, (m.observe thread object).1.record,
          (m.observe thread object).2.tally) =
        if m.sampling.admits then
          match m.host.scenario.className? object with
          | none => (.unresolved, none, m.tally)
          | some name =>
            (.emitted (m.tally.record name).1,
              some (m.host.scenario.recordOf name (m.tally.record name).1 thread m.sampling.depth),
              (m.tally.record name).2)
        else (.notSampled, none, m.tally) := by
  have htold := m.host.scenario.toOption_objectClass object
  rcases ha : m.sampling.admits with _ | _
  · simp [observe, Sampling.next, ha]
  rcases ho : m.host.scenario.objectClass object with e | name <;> rw [ho] at htold
  · simp [observe, Sampling.next, ha, Host.objectClass, Host.serve, ho, ← htold, Except.toOption]
  · -- the event is described by the monitor that has counted it
    let counted : Monitor :=
      { m with
        sampling := m.sampling.next.2
        metrics := m.metrics.event.sampled
        host := (m.host.objectClass object).2
        tally := (m.tally.record name).2 }
    have hobserve : m.observe thread object =
        counted.describe name (m.tally.record name).1 thread := by
      simp [observe, counted, Sampling.next, ha, Host.objectClass, Host.serve, ho]
    have hname : m.host.scenario.className? object = some name := htold.symm
    obtain ⟨hout, hrec, hkept, hsampling, htally⟩ :=
      counted.describe_spec name (m.tally.record name).1 thread
    rw [hobserve]
    refine ⟨hkept, hsampling, ?_⟩
    rw [hout, hrec, htally, hname]
    rfl

/-! ### Runs -/

theorem run_event (m : Monitor) (thread object : Nat) (rest : List Step) :
    m.run (.event thread object :: rest) =
      ((m.observe thread object).1 :: ((m.observe thread object).2.run rest).1,
        ((m.observe thread object).2.run rest).2) := rfl

theorem run_control (m : Monitor) (change : Control) (rest : List Step) :
    m.run (.control change :: rest) = (m.control change).run rest := rfl

end Monitor

end Contention
