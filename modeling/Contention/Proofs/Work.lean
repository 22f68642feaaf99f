import Contention.Proofs.Capture
import Contention.Proofs.Conduct
import Contention.Proofs.Resolver
import Contention.Proofs.Windows

/-!
# What an event costs the host

Every question to a host is a **call**, and a host counts the calls that it served. How many of them
a stack takes is told by the scenario alone: `windowCalls` beside `Host.resolveAll` and
`Scenario.stackCalls` beside `Host.capture`. A frame takes three calls, or fewer if it fails, and no
frame behind a failing one takes any. Giving buffers back is not counted.

`StackWork` spells out what comes of this for a stack, and `Scenario.stackWork` says that it does;
`Monitor.observe_work` goes from stacks to events. The main statement is `host_work_accounted`. It
also says what the events without a record leave alone, which is nearly everything.
-/

namespace Contention

/-! ### Frames -/

/-- The number of the call at which describing a frame with this failure ends. -/
def FrameFailure.calls : FrameFailure → Nat
  | .methodName => 1
  | .declaringClass => 2
  | .classSignature => 3

/-- How many calls it takes to describe a frame, or to find out that this cannot be done. -/
def ScriptedFrame.calls (f : ScriptedFrame) : Nat :=
  match f.fail with
  | none => 3
  | some failure => failure.calls

/-- How many calls it takes to describe frames up to the first failure. -/
def windowCalls : List ScriptedFrame → Nat
  | [] => 0
  | f :: rest => if f.isSound then f.calls + windowCalls rest else f.calls

private theorem FrameFailure.calls_le (failure : FrameFailure) : failure.calls ≤ 3 := by
  cases failure <;> decide

private theorem ScriptedFrame.calls_of_sound {f : ScriptedFrame} (h : f.fail = none) :
    f.calls = 3 := by
  rw [calls, h]

private theorem ScriptedFrame.calls_of_fail {f : ScriptedFrame} {failure : FrameFailure}
    (h : f.fail = some failure) : f.calls = failure.calls := by
  rw [calls, h]

/-- Sound frames take three calls each. -/
private theorem windowCalls_append {top : List ScriptedFrame} (htop : ∀ f ∈ top, f.fail = none)
    (rest : List ScriptedFrame) :
    windowCalls (top ++ rest) = 3 * top.length + windowCalls rest := by
  induction top with
  | nil => simp
  | cons f top ih =>
    have hf : f.fail = none := htop f (by simp)
    have hsound : f.isSound = true := f.isSound_iff.mpr hf
    have hlater := ih fun g hg => htop g (by simp [hg])
    rw [List.cons_append, windowCalls, if_pos hsound, ScriptedFrame.calls_of_sound hf, hlater,
      List.length_cons]
    omega

/-- The first failing frame takes the last calls. -/
private theorem windowCalls_failing {f : ScriptedFrame} {failure : FrameFailure}
    (h : f.fail = some failure) (rest : List ScriptedFrame) :
    windowCalls (f :: rest) = failure.calls := by
  have hunsound : ¬ f.isSound = true := by simp [ScriptedFrame.isSound, h]
  rw [windowCalls, if_neg hunsound, ScriptedFrame.calls_of_fail h]

namespace Host

@[simp]
theorem calls_finish (h : Host) (bs : List Buffer) (a : α) : (h.finish bs a).host.calls = h.calls :=
  (h.alike_releaseAll bs).calls

/-- **One method** takes the calls of its frame. -/
theorem calls_resolve {h : Host} {m : Method} {f : ScriptedFrame}
    (hm : h.scenario.frame? m = some f) :
    (h.resolve m).host.calls = h.calls + .ofNat f.calls := by
  have hframe : ∀ call, h.scenario.frameOf m.thread m.frame call = .ok f := fun call => by
    rw [Scenario.frame?] at hm
    rw [Scenario.frameOf, hm]
  rcases hfail : f.fail with _ | _ | _ | _ <;>
    simp [resolve, methodName, declaringClass, classSignature, serve, Scenario.methodName,
      Scenario.declaringClass, Scenario.classSignature, Scenario.frameUnless, hframe, hfail,
      ScriptedFrame.calls, FrameFailure.calls, bind, Except.bind, UInt64.add_assoc]

/-- **Many methods** take the calls of their frames up to the first failure. -/
theorem calls_resolveAll {h : Host} {ms : List Method} {frames : List ScriptedFrame}
    (hms : ms.map h.scenario.frame? = frames.map some) :
    (h.resolveAll ms).host.calls = h.calls + .ofNat (windowCalls frames) := by
  induction frames generalizing h ms with
  | nil =>
    obtain rfl := List.map_eq_nil_iff.mp hms
    simp [resolveAll, windowCalls]
  | cons f frames ih =>
    obtain ⟨m, rest, rfl, hm, hrest⟩ := List.map_eq_cons_iff.mp hms
    have hcalls := calls_resolve hm
    obtain ⟨hresult, hkept⟩ := resolve_spec h m
    rw [Scenario.resolution_eq_frame?, hm] at hresult
    rcases hr : h.resolve m with ⟨r, h', log⟩
    simp only [hr] at hresult hkept hcalls
    rcases hfail : f.fail with _ | failure
    · obtain rfl : r = .ok f.descriptor := by rw [hresult, ScriptedFrame.resolution, hfail]
      have hlater : (h'.resolveAll rest).host.calls = h'.calls + .ofNat (windowCalls frames) :=
        ih (by rw [hkept]; exact hrest)
      rw [resolveAll, hr, hlater, hcalls, windowCalls, if_pos (f.isSound_iff.mpr hfail),
        UInt64.ofNat_add, UInt64.add_assoc]
    · obtain ⟨e, rfl⟩ : ∃ e, r = .error e :=
        ⟨_, by rw [hresult, ScriptedFrame.resolution, hfail]⟩
      rw [resolveAll, hr, hcalls, windowCalls_failing hfail, ScriptedFrame.calls_of_fail hfail]

end Host

/-! ### Stacks -/

/-- The methods of a window stand for its frames. -/
private theorem Scenario.map_frame?_window {s : Scenario} {thread : Nat} {t : ScriptedThread}
    (ht : s.threads[thread]? = some t) (most : Nat) :
    ((window t.frames.length 0 most).map fun i => (⟨thread, i⟩ : Method)).map s.frame? =
      (t.frames.take most).map some := by
  rw [window_eq_range', List.map_map]
  refine List.ext_getElem (by simp) fun i hi hi' => ?_
  have hlt : i < t.frames.length := by
    simp only [List.length_map, List.length_take] at hi'
    omega
  simp [frame?, ht, hlt]

/-- How many calls it takes to look for the stack of a thread. -/
def Scenario.stackCalls (s : Scenario) (thread depth : Nat) : Nat :=
  if depth = 0 then 0
  else
    match s.threads[thread]? with
    | none => 1
    | some t => if t.failStackTrace then 1 else 1 + windowCalls (t.window depth)

/-- **A capture** takes as many calls as the scenario says, whatever the conduct of the host. -/
theorem Host.calls_capture (h : Host) (thread depth : Nat) :
    (h.capture thread depth).host.calls =
      h.calls + .ofNat (h.scenario.stackCalls thread depth) := by
  by_cases hd : depth = 0
  · simp [capture, Scenario.stackCalls, hd]
  rw [capture_eq_scenario h thread hd, Scenario.stackCalls, if_neg hd]
  rcases ht : h.scenario.threads[thread]? with _ | t
  · simp [Scenario.stackTrace, Scenario.threadOf, ht, stackTrace, serve, bind, Except.bind]
  rcases hfail : t.failStackTrace with _ | _
  · simp only [Scenario.stackTrace, Scenario.threadOf, ht, hfail, bind, Except.bind,
      Bool.false_eq_true, if_false]
    have hmethods := Scenario.map_frame?_window ht (min depth maxDepth)
    rw [UInt64.ofNat_add, ← UInt64.add_assoc]
    exact calls_resolveAll (h := (h.stackTrace thread 0 (min depth maxDepth)).2) hmethods
  · simp [Scenario.stackTrace, Scenario.threadOf, ht, hfail, stackTrace, serve, bind, Except.bind]

/-- **What looking for a stack comes to**: so many frames are resolved, in so many calls. -/
inductive StackWork (s : Scenario) (thread depth : Nat) : (resolved calls : Nat) → Prop
  /-- At depth zero the host is not asked. -/
  | unasked (hdepth : depth = 0) : StackWork s thread depth 0 0
  /-- The host refuses the stack or hands out no frame. -/
  | nothing (hdepth : depth ≠ 0)
      (hstack : ∀ m rest, s.stackTrace thread 0 (min depth maxDepth) ≠ .ok (m :: rest)) :
      StackWork s thread depth 0 1
  /-- No frame in the window fails. -/
  | whole {t : ScriptedThread} (hdepth : depth ≠ 0) (ht : s.threads[thread]? = some t)
      (hgiven : t.failStackTrace = false) (hframes : t.frames ≠ [])
      (hsound : ∀ f ∈ t.window depth, f.fail = none) :
      StackWork s thread depth (t.window depth).length (1 + 3 * (t.window depth).length)
  /-- A frame in the window fails, and none before it does. -/
  | cut {t : ScriptedThread} {top rest : List ScriptedFrame} {failing : ScriptedFrame}
      {failure : FrameFailure} (hdepth : depth ≠ 0) (ht : s.threads[thread]? = some t)
      (hgiven : t.failStackTrace = false) (hwindow : t.window depth = top ++ failing :: rest)
      (hsound : ∀ f ∈ top, f.fail = none) (hfail : failing.fail = some failure) :
      StackWork s thread depth top.length (1 + 3 * top.length + failure.calls)

namespace StackWork

variable {s : Scenario} {thread depth resolved calls : Nat}

/-- No more than one call for the stack and three for each frame that was asked for. -/
theorem calls_le (h : StackWork s thread depth resolved calls) :
    calls ≤ 1 + 3 * min depth maxDepth := by
  have hlength (t : ScriptedThread) : (t.window depth).length ≤ min depth maxDepth :=
    List.length_take_le _ _
  cases h with
  | unasked => omega
  | nothing => omega
  | @whole t =>
    have := hlength t
    omega
  | @cut t top rest failing failure _ _ _ hwindow =>
    have hcut := hlength t
    rw [hwindow, List.length_append, List.length_cons] at hcut
    have := failure.calls_le
    omega

end StackWork

/-- The sound top of a window is followed by nothing or by a frame that fails. -/
private theorem ScriptedThread.window_cases (t : ScriptedThread) (depth : Nat) :
    t.window depth = t.soundTop depth ∨ ∃ failing failure rest,
      t.window depth = t.soundTop depth ++ failing :: rest ∧ failing.fail = some failure := by
  have hsplit : t.soundTop depth ++ (t.window depth).dropWhile ScriptedFrame.isSound =
      t.window depth := List.takeWhile_append_dropWhile
  rcases hrest : (t.window depth).dropWhile ScriptedFrame.isSound with _ | ⟨failing, rest⟩
  · rw [hrest, List.append_nil] at hsplit
    exact .inl hsplit.symm
  · rw [hrest] at hsplit
    have hne : (t.window depth).dropWhile ScriptedFrame.isSound ≠ [] := by simp [hrest]
    have hunsound := List.head_dropWhile_not ScriptedFrame.isSound hne
    simp only [hrest, List.head_cons, ScriptedFrame.isSound] at hunsound
    obtain ⟨failure, hfail⟩ := Option.isSome_iff_exists.mp (by simpa using hunsound)
    exact .inr ⟨failing, failure, rest, hsplit.symm, hfail⟩

/-- The frames that a record shows are the sound top of the window. -/
private theorem Scenario.length_frames?_eq {s : Scenario} {thread : Nat} {t : ScriptedThread}
    (ht : s.threads[thread]? = some t) (hgiven : t.failStackTrace = false) (depth : Nat) :
    ((s.frames? thread depth).getD []).length = (t.soundTop depth).length := by
  rw [frames?, captured?_of_thread ht, hgiven]
  by_cases htop : t.soundTop depth = [] <;> simp [htop]

/-- A stack that is handed out takes the calls of its window besides. -/
private theorem Scenario.stackWork_of_thread {s : Scenario} {thread depth : Nat}
    {t : ScriptedThread} (hd : depth ≠ 0) (ht : s.threads[thread]? = some t)
    (hgiven : t.failStackTrace = false) :
    StackWork s thread depth (t.soundTop depth).length (1 + windowCalls (t.window depth)) := by
  have hsound := (t.isSoundTop_soundTop depth).sound
  rcases t.window_cases depth with hwhole | ⟨failing, failure, rest, hwindow, hfail⟩
  · have hcalls : windowCalls (t.window depth) = 3 * (t.window depth).length := by
      have happend := windowCalls_append hsound []
      rwa [List.append_nil, ← hwhole] at happend
    rw [← hwhole, hcalls]
    by_cases hframes : t.frames = []
    · have hempty : t.window depth = [] := by simp [ScriptedThread.window, hframes]
      rw [hempty]
      refine .nothing hd fun m rest => ?_
      simp [stackTrace, threadOf, ht, hgiven, hframes, window, bind, Except.bind]
    · exact .whole hd ht hgiven hframes (hwhole ▸ hsound)
  · rw [hwindow, windowCalls_append hsound, windowCalls_failing hfail, ← Nat.add_assoc]
    exact .cut hd ht hgiven hwindow hsound hfail

/-- **The work for a stack**, told by the frames that a record shows. -/
theorem Scenario.stackWork (s : Scenario) (thread depth : Nat) :
    StackWork s thread depth ((s.frames? thread depth).getD []).length
      (s.stackCalls thread depth) := by
  by_cases hd : depth = 0
  · subst hd
    have hnone : s.frames? thread 0 = none := by
      rw [frames?, (s.captured?_eq_none_iff thread 0).mpr (.inl rfl)]
      rfl
    rw [hnone]
    exact .unasked rfl
  rcases ht : s.threads[thread]? with _ | t
  · have hnothing : StackWork s thread depth 0 1 :=
      .nothing hd (by simp [stackTrace, threadOf, ht, bind, Except.bind])
    simpa [frames?, captured?, stackCalls, ht, hd] using hnothing
  rcases hgiven : t.failStackTrace with _ | _
  · have hcalls : s.stackCalls thread depth = 1 + windowCalls (t.window depth) := by
      simp [stackCalls, hd, ht, hgiven]
    rw [length_frames?_eq ht hgiven, hcalls]
    exact stackWork_of_thread hd ht hgiven
  · have hnothing : StackWork s thread depth 0 1 :=
      .nothing hd (by simp [stackTrace, threadOf, ht, hgiven, bind, Except.bind])
    simpa [frames?, captured?, stackCalls, ht, hd, hgiven] using hnothing

/-! ### Events -/

theorem calls_findStack (h : Host) (m : Metrics) (depth thread : Nat) :
    (findStack h m depth thread).host.calls =
      h.calls + .ofNat (h.scenario.stackCalls thread depth) := by
  by_cases hd : depth = 0
  · simp [findStack, Scenario.stackCalls, hd]
  · rw [← h.calls_capture]
    simp [findStack, hd]

private theorem calls_findThreadName (h : Host) (m : Metrics) (thread : Nat) :
    (findThreadName h m thread).host.calls = h.calls + 1 := by
  rcases hi : h.scenario.threadInfo thread with e | name
  · simp [findThreadName, Host.threadInfo, Host.serve, hi]
  · have hserved : h.threadInfo thread = (.ok name, (h.threadInfo thread).2) := by
      rw [← hi]
      rfl
    have hreleased := ((h.threadInfo thread).2.alike_releaseAll [name]).calls
    rw [findThreadName, hserved]
    exact hreleased

private theorem calls_findOsThreadId (h : Host) (m : Metrics) (thread : Nat) :
    (findOsThreadId h m thread).host.calls = h.calls + 1 := by
  rcases hi : h.scenario.osThreadId thread with e | id <;>
    simp [findOsThreadId, Host.osThreadId, Host.serve, hi]

namespace Monitor

/-- Describing an event takes two calls besides those for the stack. -/
private theorem calls_describe (m : Monitor) (name : String) (count : UInt64) (thread : Nat) :
    (m.describe name count thread).2.host.calls =
      m.host.calls + .ofNat (2 + m.host.scenario.stackCalls thread m.sampling.depth) := by
  have hlast : (m.describe name count thread).2.host.calls =
      (findStack m.host m.metrics m.sampling.depth thread).host.calls + 1 + 1 := by
    rw [← calls_findThreadName, ← calls_findOsThreadId]
    rfl
  rw [hlast, calls_findStack, Nat.add_comm 2, UInt64.ofNat_add, UInt64.add_assoc, UInt64.add_assoc]
  rfl

/-- **What an event does to the host.** It is refused; or the type of its object cannot be told; or
it gets a record, and takes three calls besides those for the stack. -/
theorem observe_work (m : Monitor) (thread object : Nat) :
    (m.observe thread object = (⟨.notSampled, none, []⟩,
        { m with sampling := m.sampling.next.2, metrics := m.metrics.event })) ∨
      (∃ e, m.observe thread object = (⟨.unresolved, none, [.objectUnresolved e]⟩,
        { m with
          host := { m.host with calls := m.host.calls + 1 }
          sampling := m.sampling.next.2
          metrics := m.metrics.event.sampled.unresolved })) ∨
      ∃ count record calls, (m.observe thread object).1.outcome = .emitted count ∧
        (m.observe thread object).1.record = some record ∧
        StackWork m.host.scenario thread m.sampling.depth (record.stackTrace.getD []).length calls ∧
        (m.observe thread object).2.host.calls = m.host.calls + .ofNat (3 + calls) := by
  rcases ha : m.sampling.admits with _ | _
  · exact .inl (by simp [observe, Sampling.next, ha])
  rcases ho : m.host.scenario.objectClass object with e | name
  · exact .inr (.inl ⟨e, by simp [observe, Sampling.next, ha, Host.objectClass, Host.serve, ho]⟩)
  -- the event is described by the monitor that has counted it, after the call for its type
  let counted : Monitor :=
    { m with
      host := { m.host with calls := m.host.calls + 1 }
      sampling := m.sampling.next.2
      tally := (m.tally.record name).2
      metrics := m.metrics.event.sampled }
  have hobserve : m.observe thread object =
      counted.describe name (m.tally.record name).1 thread := by
    simp [observe, counted, Sampling.next, ha, Host.objectClass, Host.serve, ho]
  obtain ⟨hout, hrecord, -⟩ := counted.describe_spec name (m.tally.record name).1 thread
  have hcalls := counted.calls_describe name (m.tally.record name).1 thread
  rw [hobserve]
  refine .inr (.inr ⟨_, _, m.host.scenario.stackCalls thread m.sampling.depth, hout, hrecord,
    m.host.scenario.stackWork thread m.sampling.depth, ?_⟩)
  rw [hcalls, show 3 = 1 + 2 from rfl, Nat.add_assoc, UInt64.ofNat_add 1, ← UInt64.add_assoc]
  rfl

/-- **One event** makes no call if it is not sampled, and few otherwise. -/
theorem calls_observe (m : Monitor) (thread object : Nat) :
    ∃ calls, (m.observe thread object).2.host.calls = m.host.calls + .ofNat calls ∧
      calls ≤ 388 * [(m.observe thread object).1].countP (·.outcome ≠ .notSampled) := by
  rcases m.observe_work thread object with hrefused | ⟨e, hfailed⟩ |
    ⟨count, record, calls, hout, -, hwork, hcalls⟩
  · exact ⟨0, by simp [hrefused], by simp [hrefused]⟩
  · exact ⟨1, by simp [hfailed], by simp [hfailed]⟩
  · have hle : calls ≤ 1 + 3 * min m.sampling.depth 128 := hwork.calls_le
    refine ⟨3 + calls, hcalls, ?_⟩
    simp only [List.countP_singleton, hout, ne_eq, reduceCtorEq, not_false_eq_true, decide_true,
      if_true]
    omega

/-- **A run** makes few calls for each event that is sampled. -/
theorem calls_run (m : Monitor) (steps : List Step) :
    ∃ calls, (m.run steps).2.host.calls = m.host.calls + .ofNat calls ∧
      calls ≤ 388 * (m.run steps).1.countP (·.outcome ≠ .notSampled) := by
  induction steps generalizing m with
  | nil => exact ⟨0, by simp [run], Nat.zero_le _⟩
  | cons first rest ih =>
    cases first with
    | control change => exact ih (m.control change)
    | event thread object =>
      obtain ⟨calls, hcalls, hle⟩ := m.calls_observe thread object
      obtain ⟨later, hlater, hlater_le⟩ := ih (m.observe thread object).2
      refine ⟨calls + later, ?_, ?_⟩
      · rw [run_event, hlater, hcalls, UInt64.ofNat_add, UInt64.add_assoc]
      · rw [run_event, ← List.singleton_append, List.countP_append]
        omega

/-- The counters of calls and of sampled events, if both start from zero. -/
theorem toNat_calls_run_le {m : Monitor} {steps : List Step} (hzero : m.host.calls = 0)
    (hnone : m.metrics.eventsSampled = 0) (hlt : Reference.events steps < UInt64.size) :
    (m.run steps).2.host.calls.toNat ≤ 388 * (m.run steps).2.metrics.eventsSampled.toNat := by
  obtain ⟨calls, hcalls, hle⟩ := m.calls_run steps
  obtain ⟨attempted, truncated, hcharged⟩ := m.charged_run steps
  have hfew : (m.run steps).1.countP (·.outcome ≠ .notSampled) < UInt64.size :=
    Nat.lt_of_le_of_lt List.countP_le_length (by rwa [m.length_run steps])
  have hsampled : (m.run steps).2.metrics.eventsSampled.toNat =
      (m.run steps).1.countP (·.outcome ≠ .notSampled) := by
    rw [hcharged.eventsSampled, hnone, UInt64.zero_add, UInt64.toNat_ofNat_of_lt' hfew]
  -- should the number of calls be too large for a word, the counter shows even less
  have hshown : (m.run steps).2.host.calls.toNat ≤ calls := by
    rw [hcalls, hzero, UInt64.zero_add, UInt64.toNat_ofNat']
    exact Nat.mod_le _ _
  rw [hsampled]
  exact hshown.trans hle

end Monitor

/-! ### The main statement -/

open Reference in
/-- **The work of the host is bounded and accounted for.** An event that is not sampled changes
nothing but the number of decisions and the events seen. An unresolved one changes these, the
events sampled, the unresolved objects, the calls served, by one, and the log. Any other one takes
three calls and those for its stack, as `StackWork` says, where the frames resolved are those that
its record shows; so it takes at most four and three more for each frame within the depth. Over any
run there are at most 388 calls for each event that is sampled. If calls and sampled events are
counted from zero on, and there are fewer than `2 ^ 64` events, then this also holds of the two
counters. -/
theorem host_work_accounted (s : Station) (thread object : Nat) (steps : List Monitor.Step) :
    let m := s.monitor
    let after := (s.observe thread object).2
    let decided : Sampling := { m.sampling with decisions := m.sampling.decisions + 1 }
    (match (s.observe thread object).1 with
      | .notSampled =>
        after = { s with
          monitor := { m with
            sampling := decided
            metrics := { m.metrics with eventsSeen := m.metrics.eventsSeen + 1 } } }
      | .unresolved => ∃ e,
        after = { s with
          monitor := { m with
            host := { m.host with calls := m.host.calls + 1 }
            sampling := decided
            metrics := { m.metrics with
              eventsSeen := m.metrics.eventsSeen + 1
              eventsSampled := m.metrics.eventsSampled + 1
              unresolvedObjects := m.metrics.unresolvedObjects + 1 } }
          log := s.log ++ [.objectUnresolved e] }
      | .emitted _ => ∃ record resolved calls,
        (m.observe thread object).1.record = some record ∧
          resolved = (record.stackTrace.getD []).length ∧
          StackWork m.host.scenario thread m.sampling.depth resolved calls ∧
          after.monitor.host.calls = m.host.calls + .ofNat (3 + calls) ∧
          3 + calls ≤ 4 + 3 * min m.sampling.depth 128) ∧
    (let last := s.run (steps.map Station.Step.ofMonitor)
     ∃ calls, last.2.monitor.host.calls = m.host.calls + .ofNat calls ∧
       calls ≤ 388 * last.1.countP (· ≠ .notSampled) ∧
       (m.host.calls = 0 → m.metrics.eventsSampled = 0 → events steps < UInt64.size →
         last.2.monitor.host.calls.toNat ≤
           388 * last.2.monitor.metrics.eventsSampled.toNat)) := by
  intro m after decided
  obtain ⟨hout, hmonitor, -⟩ := s.observe_monitor thread object
  refine ⟨?_, ?_⟩
  · rw [hout]
    rcases m.observe_work thread object with hrefused | ⟨e, hfailed⟩ |
      ⟨count, record, calls, houtcome, hrecord, hwork, hcalls⟩
    · rw [hrefused]
      simp [after, Station.observe, m, hrefused, decided, Sampling.next, Metrics.event]
    · rw [hfailed]
      refine ⟨e, ?_⟩
      simp [after, Station.observe, m, hfailed, decided, Sampling.next, Metrics.event,
        Metrics.sampled, Metrics.unresolved]
    · rw [houtcome]
      have hle : calls ≤ 1 + 3 * min m.sampling.depth 128 := hwork.calls_le
      refine ⟨record, _, calls, hrecord, rfl, hwork, ?_, by omega⟩
      rw [hmonitor, hcalls]
  · intro last
    obtain ⟨houtcomes, hlast, -⟩ := s.run_monitor steps
    obtain ⟨calls, hcalls, hle⟩ := m.calls_run steps
    have hsampled : last.1.countP (· ≠ .notSampled) =
        (m.run steps).1.countP (·.outcome ≠ .notSampled) := by
      rw [houtcomes, List.countP_map]
      rfl
    refine ⟨calls, ?_, ?_, fun hzero hnone hlt => ?_⟩
    · rw [hlast, hcalls]
    · rw [hsampled]
      exact hle
    · rw [hlast]
      exact Monitor.toNat_calls_run_le hzero hnone hlt

/-- Two frames are looked at, and the second one fails at its last call: with the three calls that
each record takes and the one for the stack this makes ten. Two events later, of an object that
fails and of one that does not, there are 21. -/
theorem host_work_accounted_sharedLock :
    let s : Station :=
      { monitor := { host := { scenario := sharedLock }, sampling := { depth := 5 } }
        sink := .closure [] }
    let steps : List Monitor.Step := [.event 0 0, .event 0 1, .event 0 2]
    let last := (s.run (steps.map Station.Step.ofMonitor)).2.monitor
    (s.monitor.host.calls = 0 ∧ s.monitor.metrics.eventsSampled = 0 ∧
        Reference.events steps < UInt64.size) ∧
      (s.observe 0 0).1 = .emitted 1 ∧ StackWork sharedLock 0 5 1 7 ∧
      (s.observe 0 0).2.monitor.host.calls = 10 ∧
      last.host.calls = 21 ∧ last.host.calls.toNat ≤ 388 * last.metrics.eventsSampled.toNat := by
  intro s steps last
  have hlt : Reference.events steps < UInt64.size := by decide
  obtain ⟨-, calls, -, -, hcounters⟩ := host_work_accounted s 0 0 steps
  have hwindow : sharedLock.threads[0].window 5 = [⟨"LMain;", "run", "()V", none⟩] ++
      [⟨"LMain;", "main", "()V", some .classSignature⟩] := rfl
  have hwork : StackWork sharedLock 0 5 1 7 :=
    .cut (by decide) rfl rfl hwindow (by simp) rfl
  exact ⟨⟨rfl, rfl, hlt⟩, by decide, hwork, by decide, by decide, hcounters rfl rfl hlt⟩

end Contention
