import Contention.Text.Numeral

/-!
# Scenarios

A `Scenario` is a fixed cast of objects and threads together with a list of contention events
among them. Failures can be planted in objects, threads and single stack frames. The events name
objects and threads by their position; `Scenario.validate` says whether all of them exist.
-/

namespace Contention

/-- The step of resolving a frame that is made to fail. -/
inductive FrameFailure where
  | methodName
  | declaringClass
  | classSignature
deriving DecidableEq, Repr

/-- A stack frame of a scripted thread. -/
structure ScriptedFrame where
  className : String
  method : String
  signature : String
  fail : Option FrameFailure := none
deriving DecidableEq, Repr, Inhabited

/-- A thread of a scenario. -/
structure ScriptedThread where
  name : String
  osThreadId : Option Int64 := none
  /-- The stack, innermost frame first. -/
  frames : List ScriptedFrame := []
  failStackTrace : Bool := false
  failThreadInfo : Bool := false
deriving DecidableEq, Repr, Inhabited

/-- An object of a scenario. -/
structure ScriptedObject where
  className : String
  fail : Bool := false
deriving DecidableEq, Repr, Inhabited

/-- The thread at one position entered the monitor of the object at another. -/
structure ScriptedEvent where
  thread : UInt64
  object : UInt64
deriving DecidableEq, Repr, Inhabited

/-- A cast of objects and threads, and what happens among them. -/
structure Scenario where
  objects : List ScriptedObject := []
  threads : List ScriptedThread := []
  events : List ScriptedEvent := []
deriving DecidableEq, Repr, Inhabited

namespace Scenario

/-- An event that points to nothing. -/
inductive Dangling where
  | unknownThread (event : Nat) (thread : UInt64)
  | unknownObject (event : Nat) (object : UInt64)
deriving DecidableEq, Repr

/-- The text of a dangling reference. -/
def Dangling.message : Dangling → String
  | .unknownThread event thread =>
    "event " ++ Text.showNat event ++ " references unknown thread " ++ Text.showNat thread.toNat
  | .unknownObject event object =>
    "event " ++ Text.showNat event ++ " references unknown object " ++ Text.showNat object.toNat

/-- The first dangling reference among events of which the first has the given number, the thread
of an event being looked at before its object. -/
def dangling? (s : Scenario) : (number : Nat) → List ScriptedEvent → Option Dangling
  | _, [] => none
  | number, e :: rest =>
    if s.threads.length ≤ e.thread.toNat then some (.unknownThread number e.thread)
    else if s.objects.length ≤ e.object.toNat then some (.unknownObject number e.object)
    else s.dangling? (number + 1) rest

/-- Refuse a scenario with an event that points to nothing. -/
def validate (s : Scenario) : Except Dangling Unit :=
  match s.dangling? 0 s.events with
  | some d => .error d
  | none => .ok ()

end Scenario

end Contention
