import Contention.Stack

/-!
# What a capture shows of a stack

`Scenario.captured?` says what can be learned of a thread's stack from the scenario alone: of the
first `min depth maxDepth` frames, those before the first one with a planted failure. The main
statement is `Host.capture_spec`: a capture answers exactly that, whatever the host has served
and lent before, and **whatever its conduct**. A greedy host hands out more methods than it was
asked for, but those beyond the window are cut off before any of them is resolved.

The proof goes frame by frame. `Scenario.resolution` is the answer to resolving one method, and
`resolveAll_window` follows the resolution of a whole window of methods.
-/

namespace Contention

/-! ### The answers of a scenario -/

/-- The call that a planted failure makes fail. -/
def FrameFailure.call : FrameFailure → HostCall
  | .methodName => .methodName
  | .declaringClass => .declaringClass
  | .classSignature => .classSignature

namespace ScriptedFrame

/-- The frame as a record shows it. -/
def descriptor (f : ScriptedFrame) : Frame := ⟨f.className, f.method, f.signature⟩

/-- Whether no failure is planted in the frame. -/
def isSound (f : ScriptedFrame) : Bool := f.fail.isNone

/-- What resolving the frame comes to. -/
def resolution (f : ScriptedFrame) : Except HostError Frame :=
  match f.fail with
  | none => .ok f.descriptor
  | some failure => .error (.failed failure.call plantedCode)

end ScriptedFrame

namespace Scenario

/-- What resolving a method comes to. -/
def resolution (s : Scenario) (m : Method) : Except HostError Frame := do
  let (name, signature) ← s.methodName m
  let c ← s.declaringClass m
  let cls ← s.classSignature c
  .ok ⟨cls.text, name.text, signature.text⟩

/-- A method on the stack of a thread is resolved by its frame. -/
theorem resolution_eq {s : Scenario} {thread i : Nat} {t : ScriptedThread} {f : ScriptedFrame}
    (ht : s.threads[thread]? = some t) (hf : t.frames[i]? = some f) :
    s.resolution ⟨thread, i⟩ = f.resolution := by
  have hframe : ∀ call, s.frameOf thread i call = .ok f := fun call => by
    simp [frameOf, ht, hf]
  rcases hfail : f.fail with _ | _ | _ | _ <;>
    simp [resolution, methodName, declaringClass, classSignature, frameUnless, hframe, hfail,
      ScriptedFrame.resolution, FrameFailure.call, ScriptedFrame.descriptor, bind, Except.bind]

/-- The stack that a capture of at most `depth` frames of a thread comes to: the sound frames at
the top of its window, if there are any. It is truncated if they are not the whole window. -/
def captured? (s : Scenario) (thread depth : Nat) : Option CapturedStack :=
  match s.threads[thread]? with
  | none => none
  | some t =>
    let window := t.frames.take (min depth maxDepth)
    let sound := window.takeWhile ScriptedFrame.isSound
    if t.failStackTrace ∨ sound = [] then none
    else some ⟨sound.map ScriptedFrame.descriptor, decide (sound.length < window.length)⟩

end Scenario

/-! ### Hosts keep their scenario -/

namespace Host

@[simp]
theorem scenario_release (h : Host) (b : Buffer) : (h.release b).2.scenario = h.scenario := by
  cases hl : h.conduct.leaky <;> simp [release, deallocate, hl]

@[simp]
theorem scenario_releaseAll (h : Host) (bs : List Buffer) :
    (h.releaseAll bs).2.scenario = h.scenario := by
  induction bs generalizing h with
  | nil => rfl
  | cons b rest ih => simp [releaseAll, ih]

@[simp]
theorem result_finish (h : Host) (bs : List Buffer) (a : α) : (h.finish bs a).result = a := rfl

@[simp]
theorem scenario_finish (h : Host) (bs : List Buffer) (a : α) :
    (h.finish bs a).host.scenario = h.scenario :=
  scenario_releaseAll h bs

/-! ### One method -/

/-- Resolving a method answers what the scenario says, and keeps the scenario. -/
theorem resolve_spec (h : Host) (m : Method) :
    (h.resolve m).result = h.scenario.resolution m ∧
      (h.resolve m).host.scenario = h.scenario := by
  rcases hname : h.scenario.methodName m with e | ⟨name, signature⟩
  · simp [resolve, methodName, serve, Scenario.resolution, hname, bind, Except.bind]
  rcases hclass : h.scenario.declaringClass m with e | c
  · simp [resolve, methodName, declaringClass, serve, Scenario.resolution, hname, hclass, bind,
      Except.bind]
  rcases hsig : h.scenario.classSignature c with e | cls <;>
    simp [resolve, methodName, declaringClass, classSignature, serve, Scenario.resolution, hname,
      hclass, hsig, bind, Except.bind]

@[simp]
theorem scenario_resolve (h : Host) (m : Method) :
    (h.resolve m).host.scenario = h.scenario :=
  (resolve_spec h m).2

/-! ### Windows of methods -/

@[simp]
theorem scenario_resolveAll (h : Host) (ms : List Method) :
    (h.resolveAll ms).host.scenario = h.scenario := by
  induction ms generalizing h with
  | nil => rfl
  | cons m rest ih =>
    have hkept := scenario_resolve h m
    rcases hr : h.resolve m with ⟨e | frame, h', log⟩ <;> rw [hr] at hkept
    · simpa [resolveAll, hr] using hkept
    · simpa [resolveAll, hr, ih] using hkept

/-- Resolving the methods of frames that stand on a thread's stack from position `a` on: the sound
ones at the top are described, and a failure comes with the first other one. -/
theorem resolveAll_window {thread : Nat} {t : ScriptedThread} {frames : List ScriptedFrame}
    {a : Nat} (h : Host) (ht : h.scenario.threads[thread]? = some t)
    (hframes : frames <+: t.frames.drop a) :
    (h.resolveAll ((List.range' a frames.length).map fun i => ⟨thread, i⟩)).result.1 =
        (frames.takeWhile ScriptedFrame.isSound).map ScriptedFrame.descriptor ∧
      (h.resolveAll ((List.range' a frames.length).map fun i => ⟨thread, i⟩)).result.2.isSome =
        decide ((frames.takeWhile ScriptedFrame.isSound).length < frames.length) := by
  induction frames generalizing a h with
  | nil => exact ⟨rfl, rfl⟩
  | cons f frames ih =>
    obtain ⟨deeper, hdeeper⟩ := hframes
    have hf : t.frames[a]? = some f := by
      rw [← List.head?_drop, ← hdeeper]
      rfl
    have hrest : frames <+: t.frames.drop (a + 1) :=
      ⟨deeper, by rw [← List.tail_drop, ← hdeeper]; rfl⟩
    obtain ⟨hresult, hkept⟩ := resolve_spec h ⟨thread, a⟩
    rw [Scenario.resolution_eq ht hf] at hresult
    rcases hr : h.resolve ⟨thread, a⟩ with ⟨r, h', log⟩
    rw [hr] at hresult hkept
    obtain rfl : r = f.resolution := hresult
    -- the later frames are resolved by the host that is left after this one
    obtain ⟨ihframes, ihfailed⟩ := ih h' (by rw [hkept]; exact ht) hrest
    rcases hfail : f.fail with _ | failure
    · simp [List.range'_succ, resolveAll, hr, ScriptedFrame.resolution, hfail, ihframes, ihfailed,
        ScriptedFrame.isSound]
    · simp [List.range'_succ, resolveAll, hr, ScriptedFrame.resolution, hfail,
        ScriptedFrame.isSound]

@[simp]
theorem scenario_describe (h : Host) (ms : List Method) :
    (h.describe ms).host.scenario = h.scenario :=
  scenario_resolveAll h ms

/-- Describing the methods of frames at the top of a thread's stack. -/
private theorem describe_window {thread : Nat} {t : ScriptedThread} {frames : List ScriptedFrame}
    (h : Host) (ht : h.scenario.threads[thread]? = some t) (hframes : frames <+: t.frames) :
    (h.describe ((List.range' 0 frames.length).map fun i => ⟨thread, i⟩)).result =
      if frames.takeWhile ScriptedFrame.isSound = [] then none
      else some ⟨(frames.takeWhile ScriptedFrame.isSound).map ScriptedFrame.descriptor,
        decide ((frames.takeWhile ScriptedFrame.isSound).length < frames.length)⟩ := by
  obtain ⟨hshown, hfailed⟩ := resolveAll_window h ht (a := 0) (by simpa using hframes)
  simp only [describe, hshown, hfailed, List.isEmpty_iff, List.map_eq_nil_iff]

/-! ### Captures -/

/-- The methods at the top of a stack, cut off after `most` of them. -/
theorem take_map_window (thread available : Nat) {most asked : Nat} (h : most ≤ asked) :
    ((Scenario.window available 0 asked).map fun i => (⟨thread, i⟩ : Method)).take most =
      (List.range' 0 (min most available)).map fun i => ⟨thread, i⟩ := by
  have hcut : (List.range' 0 (min asked available)).take most =
      List.range' 0 (min most available) := by
    rcases Nat.le_total most available with hle | hle
    · rw [List.take_range'_of_length_ge (by omega), Nat.min_eq_left hle]
    · rw [List.take_range'_of_length_le (by omega), Nat.min_eq_right hle,
        Nat.min_eq_right (by omega)]
  simpa [Scenario.window, ← List.map_take] using congrArg _ hcut

/-- An empty stack needs no case of its own: describing no method comes to the same. -/
theorem capture_eq (h : Host) (thread : Nat) {depth : Nat} (hd : depth ≠ 0) :
    h.capture thread depth =
      match h.stackTrace thread 0 (min depth maxDepth) with
      | (.error e, h) => ⟨none, h, [.stackUnavailable e]⟩
      | (.ok methods, h) => h.describe (methods.take (min depth maxDepth)) := by
  rcases ht : h.stackTrace thread 0 (min depth maxDepth) with ⟨e | _ | ⟨m, ms⟩, h'⟩
  · simp [capture, hd, ht]
  · simp [capture, hd, ht, describe, resolveAll]
  · simp [capture, hd, ht]

/-- **A capture answers what the scenario says**, whatever the host has served and lent before
and whatever its conduct, and it keeps the scenario. -/
theorem capture_spec (h : Host) (thread depth : Nat) :
    (h.capture thread depth).result = h.scenario.captured? thread depth ∧
      (h.capture thread depth).host.scenario = h.scenario := by
  by_cases hd : depth = 0
  · subst hd
    rcases ht : h.scenario.threads[thread]? with _ | t <;>
      simp [capture, Scenario.captured?, ht]
  have hmost : min depth maxDepth ≤ if h.conduct.greedy then UInt64.size - 1
      else min depth maxDepth := by
    split
    · have : min depth maxDepth ≤ 128 := Nat.min_le_right _ _
      have : 128 ≤ UInt64.size - 1 := by decide
      omega
    · exact Nat.le_refl _
  -- no fewer methods are handed out than are looked at, so the window decides
  rw [capture_eq h thread hd]
  rcases ht : h.scenario.threads[thread]? with _ | t
  · simp [stackTrace, serve, Scenario.stackTrace, Scenario.threadOf, Scenario.captured?, ht, bind,
      Except.bind]
  rcases hfail : t.failStackTrace with _ | _
  · have hframes : t.frames.take (min depth maxDepth) <+: t.frames := List.take_prefix _ _
    simp only [stackTrace, serve, Scenario.stackTrace, Scenario.threadOf, Scenario.captured?, ht,
      hfail, bind, Except.bind, Bool.false_eq_true, if_false, false_or, scenario_describe,
      take_map_window _ _ hmost, and_true]
    rw [← List.length_take, describe_window _ (by exact ht) hframes]
  · simp [stackTrace, serve, Scenario.stackTrace, Scenario.threadOf, Scenario.captured?, ht, hfail,
      bind, Except.bind]

end Host

end Contention
