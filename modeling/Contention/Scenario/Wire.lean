import Contention.Json.Schema
import Contention.Json.Value
import Contention.Scenario

/-!
# Scenarios as JSON

Scenarios are read from JSON by the rules of `Json.Schema`: planted failures, stacks and all
three lists of a scenario may be left out. They are written compactly, with every field but the
absent optional ones.
-/

namespace Contention

open Json

namespace FrameFailure

/-- The name of a planted failure. -/
def name : FrameFailure → String
  | .methodName => "method_name"
  | .declaringClass => "declaring_class"
  | .classSignature => "class_signature"

/-- All planted failures, in the order in which messages list them. -/
def all : List FrameFailure := [.methodName, .declaringClass, .classSignature]

/-- The planted failure with the given name. -/
def ofName (name : String) : Except Fault FrameFailure :=
  match all.find? fun f => f.name == name with
  | some f => .ok f
  | none => .error (.mismatch (.choice name (all.map FrameFailure.name)))

/-- A planted failure is written as its name, or as an object with its name as the only key and
`null` as the value of that. Where the name is to stand, anything but a quotation mark is outside
the grammar. -/
def read : Reader FrameFailure := fun cs =>
  match skipBlanks cs with
  | [] => .error .ended
  | '"' :: rest => do
    let (name, rest) ← stringBody [] rest
    .ok (← ofName name, rest)
  | '{' :: rest =>
    match skipBlanks rest with
    | [] => .error .ended
    | '"' :: rest => do
      let (name, rest) ← stringBody [] rest
      let f ← ofName name
      let rest ← expectColon rest
      match skipBlanks rest with
      | [] => .error .ended
      | 'n' :: rest => do
        let rest ← expectWord ['u', 'l', 'l'] rest
        .ok (f, ← Schema.endObject rest)
      | start => .error (mismatch .nothing start)
    | _ => .error .grammar
  | _ => .error .grammar

end FrameFailure

namespace ScriptedFrame

/-- The frame as an object; a failure that is not planted is left out. -/
def toValue (f : ScriptedFrame) : Value :=
  .object ([("class", Value.string f.className), ("method", .string f.method),
    ("signature", .string f.signature)] ++
    (f.fail.map fun failure => ("fail", Value.string failure.name)).toList)

/-- How a frame is written. -/
def schema : Schema ScriptedFrame where
  title := "FrameSpec"
  blank := { className := "", method := "", signature := "" }
  fields :=
    [.of "class" true string fun f s => { f with className := s },
     .of "method" true string fun f s => { f with method := s },
     .of "signature" true string fun f s => { f with signature := s },
     .of "fail" false (nullable FrameFailure.read) fun f failure => { f with fail := failure }]

end ScriptedFrame

namespace ScriptedThread

/-- The thread as an object; an id that is not known is left out. -/
def toValue (t : ScriptedThread) : Value :=
  .object ([("name", Value.string t.name)] ++
    (t.osThreadId.map fun id => ("os_thread_id", Value.integer id.toInt)).toList ++
    [("frames", .array (t.frames.map ScriptedFrame.toValue)),
     ("fail_stack_trace", .boolean t.failStackTrace),
     ("fail_thread_info", .boolean t.failThreadInfo)])

/-- How a thread is written. -/
def schema : Schema ScriptedThread where
  title := "ThreadSpec"
  blank := { name := "" }
  fields :=
    [.of "name" true string fun t s => { t with name := s },
     .of "os_thread_id" false (nullable int64) fun t id => { t with osThreadId := id },
     .of "frames" false (list ScriptedFrame.schema.read) fun t fs => { t with frames := fs },
     .of "fail_stack_trace" false boolean fun t b => { t with failStackTrace := b },
     .of "fail_thread_info" false boolean fun t b => { t with failThreadInfo := b }]

end ScriptedThread

namespace ScriptedObject

/-- The object of a scenario as a JSON object. -/
def toValue (o : ScriptedObject) : Value :=
  .object [("class", .string o.className), ("fail", .boolean o.fail)]

/-- How an object is written. -/
def schema : Schema ScriptedObject where
  title := "ObjectSpec"
  blank := { className := "" }
  fields :=
    [.of "class" true string fun o s => { o with className := s },
     .of "fail" false boolean fun o b => { o with fail := b }]

end ScriptedObject

namespace ScriptedEvent

/-- The event as an object with two positions. -/
def toValue (e : ScriptedEvent) : Value :=
  .object [("thread", .integer e.thread.toNat), ("object", .integer e.object.toNat)]

/-- How an event is written. -/
def schema : Schema ScriptedEvent where
  title := "EventSpec"
  blank := ⟨0, 0⟩
  fields :=
    [.of "thread" true (word .index) fun e n => { e with thread := n },
     .of "object" true (word .index) fun e n => { e with object := n }]

end ScriptedEvent

namespace Scenario

/-- The scenario as an object with three arrays. -/
def toValue (s : Scenario) : Value :=
  .object [("objects", .array (s.objects.map ScriptedObject.toValue)),
    ("threads", .array (s.threads.map ScriptedThread.toValue)),
    ("events", .array (s.events.map ScriptedEvent.toValue))]

/-- The compact JSON text of a scenario. -/
def toText (s : Scenario) : String := String.ofList s.toValue.render

/-- How a scenario is written. -/
def schema : Schema Scenario where
  title := "Scenario"
  blank := {}
  fields :=
    [.of "objects" false (list ScriptedObject.schema.read) fun s os => { s with objects := os },
     .of "threads" false (list ScriptedThread.schema.read) fun s ts => { s with threads := ts },
     .of "events" false (list ScriptedEvent.schema.read) fun s es => { s with events := es }]

/-- Read a scenario from its JSON text. -/
def ofText (text : String) : Except Fault Scenario := whole schema.read text

/-- The text of a fault found while reading a scenario. -/
def faultMessage (fault : Fault) : String := "invalid scenario: " ++ fault.message

end Scenario

end Contention
