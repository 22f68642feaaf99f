import Contention.Log
import Contention.Scenario

/-!
# Hosts

A `Host` answers questions about objects, threads and stacks out of a scenario. What it answers
depends on the scenario alone (`Scenario.objectClass` and the functions after it); besides, it
counts the calls that it served and the buffers that it lent and has not got back.

Texts of methods, classes and threads come in buffers that belong to the host. They are to be
given back by `Host.deallocate`, or by `Host.release`, which logs a refusal instead of reporting
it. A host may misbehave in two ways, its `Conduct`.
-/

namespace Contention

open Log (Entry)

/-! ### Handles -/

/-- A method on a thread's stack. -/
structure Method where
  thread : Nat
  frame : Nat
deriving DecidableEq, Repr

/-- The class that declares a method on a thread's stack. -/
structure DeclaringClass where
  thread : Nat
  frame : Nat
deriving DecidableEq, Repr

/-- A text lent by a host. -/
structure Buffer where
  text : String
deriving DecidableEq, Repr

/-- The error code of planted failures. -/
def plantedCode : Nat := 112

/-- The error code of a host that takes no buffer back. -/
def leakCode : Nat := 110

/-! ### Answers of a scenario -/

namespace Scenario

/-- The type of an object. -/
def objectClass (s : Scenario) (object : Nat) : Except HostError String :=
  match s.objects[object]? with
  | none => .error (.invalidHandle .objectClass)
  | some o => if o.fail then .error (.failed .objectClass plantedCode) else .ok o.className

/-- The thread behind a handle that was passed to `call`. -/
def threadOf (s : Scenario) (thread : Nat) (call : HostCall) : Except HostError ScriptedThread :=
  match s.threads[thread]? with
  | none => .error (.invalidHandle call)
  | some t => .ok t

/-- The frame behind a handle that was passed to `call`. -/
def frameOf (s : Scenario) (thread frame : Nat) (call : HostCall) :
    Except HostError ScriptedFrame :=
  match s.threads[thread]?.bind fun t => t.frames[frame]? with
  | none => .error (.invalidHandle call)
  | some f => .ok f

/-- The positions of at most `most` of `available` frames from position `start` on. -/
def window (available start most : Nat) : List Nat :=
  let first := min start available
  let last := min (first + most) available
  List.range' first (last - first)

/-- At most `most` methods on the stack of a thread, innermost first, from position `start`
on. -/
def stackTrace (s : Scenario) (thread start most : Nat) : Except HostError (List Method) := do
  let t ← s.threadOf thread .stackTrace
  if t.failStackTrace then .error (.failed .stackTrace plantedCode)
  else .ok ((window t.frames.length start most).map fun frame => ⟨thread, frame⟩)

/-- The frame behind a handle, unless the given failure is planted there. -/
def frameUnless (s : Scenario) (thread frame : Nat) (call : HostCall) (failure : FrameFailure) :
    Except HostError ScriptedFrame := do
  let f ← s.frameOf thread frame call
  if f.fail = some failure then .error (.failed call plantedCode) else .ok f

/-- The name and the signature of a method. -/
def methodName (s : Scenario) (m : Method) : Except HostError (Buffer × Buffer) := do
  let f ← s.frameUnless m.thread m.frame .methodName .methodName
  .ok (⟨f.method⟩, ⟨f.signature⟩)

/-- The class that declares a method. -/
def declaringClass (s : Scenario) (m : Method) : Except HostError DeclaringClass := do
  let _ ← s.frameUnless m.thread m.frame .declaringClass .declaringClass
  .ok ⟨m.thread, m.frame⟩

/-- The signature of a class. -/
def classSignature (s : Scenario) (c : DeclaringClass) : Except HostError Buffer := do
  let f ← s.frameUnless c.thread c.frame .classSignature .classSignature
  .ok ⟨f.className⟩

/-- The name of a thread. -/
def threadInfo (s : Scenario) (thread : Nat) : Except HostError Buffer := do
  let t ← s.threadOf thread .threadInfo
  if t.failThreadInfo then .error (.failed .threadInfo plantedCode) else .ok ⟨t.name⟩

/-- The id of a thread in the operating system. -/
def osThreadId (s : Scenario) (thread : Nat) : Except HostError Int64 := do
  let t ← s.threadOf thread .osThreadId
  match t.osThreadId with
  | none => .error (.unsupported .osThreadId)
  | some id => .ok id

end Scenario

/-! ### Hosts -/

/-- How a host behaves beyond its answers. -/
structure Conduct where
  /-- Stacks are handed out whole, however few frames were asked for. -/
  greedy : Bool := false
  /-- Buffers are not taken back. -/
  leaky : Bool := false
deriving DecidableEq, Repr, Inhabited

/-- A host that answers out of a scenario. -/
structure Host where
  scenario : Scenario
  conduct : Conduct := {}
  /-- Calls served, those that give buffers back excluded. -/
  calls : UInt64 := 0
  /-- Buffers lent less buffers taken back, as a 64-bit word. -/
  outstanding : UInt64 := 0
deriving DecidableEq, Repr, Inhabited

namespace Host

/-- A new host, unless the scenario has an event that points to nothing. -/
def ofScenario (s : Scenario) : Except Scenario.Dangling Host :=
  s.validate.map fun () => { scenario := s }

/-- The events of the scenario as thread and object handles. -/
def events (h : Host) : List (Nat × Nat) :=
  h.scenario.events.map fun e => (e.thread.toNat, e.object.toNat)

/-- Serve a call whose answer, if it is one, lends so many buffers. -/
def serve (h : Host) (lent : UInt64) (answer : Except HostError α) : Except HostError α × Host :=
  let lent := match answer with
    | .ok _ => lent
    | .error _ => 0
  (answer, { h with calls := h.calls + 1, outstanding := h.outstanding + lent })

/-- Ask for the type of an object. -/
def objectClass (h : Host) (object : Nat) : Except HostError String × Host :=
  h.serve 0 (h.scenario.objectClass object)

/-- Ask for methods on the stack of a thread. A greedy host takes the number of frames asked for
to be larger than any stack. -/
def stackTrace (h : Host) (thread start most : Nat) : Except HostError (List Method) × Host :=
  h.serve 0 (h.scenario.stackTrace thread start
    (if h.conduct.greedy then UInt64.size - 1 else most))

/-- Ask for the name and the signature of a method, in a buffer each. -/
def methodName (h : Host) (m : Method) : Except HostError (Buffer × Buffer) × Host :=
  h.serve 2 (h.scenario.methodName m)

/-- Ask for the class that declares a method. -/
def declaringClass (h : Host) (m : Method) : Except HostError DeclaringClass × Host :=
  h.serve 0 (h.scenario.declaringClass m)

/-- Ask for the signature of a class, in a buffer. -/
def classSignature (h : Host) (c : DeclaringClass) : Except HostError Buffer × Host :=
  h.serve 1 (h.scenario.classSignature c)

/-- Ask for the name of a thread, in a buffer. -/
def threadInfo (h : Host) (thread : Nat) : Except HostError Buffer × Host :=
  h.serve 1 (h.scenario.threadInfo thread)

/-- Ask for the id of a thread in the operating system. -/
def osThreadId (h : Host) (thread : Nat) : Except HostError Int64 × Host :=
  h.serve 0 (h.scenario.osThreadId thread)

/-- Give a buffer back. -/
def deallocate (h : Host) (_buffer : Buffer) : Except HostError Unit × Host :=
  if h.conduct.leaky then (.error (.failed .deallocate leakCode), h)
  else (.ok (), { h with outstanding := h.outstanding - 1 })

/-- Give a buffer back and log a refusal. -/
def release (h : Host) (buffer : Buffer) : List Entry × Host :=
  match h.deallocate buffer with
  | (.ok (), h) => ([], h)
  | (.error e, h) => ([.releaseFailed e], h)

/-- Give buffers back one after the other. -/
def releaseAll (h : Host) : List Buffer → List Entry × Host
  | [] => ([], h)
  | b :: rest =>
    let (log, h) := h.release b
    let (later, h) := h.releaseAll rest
    (log ++ later, h)

end Host

end Contention
