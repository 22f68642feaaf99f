import Contention.Json.Schema
import Contention.Json.Value
import Contention.Record

/-!
# The wire form of records

A record is written as one compact JSON object, its payload. Parts that are `none` are left out
altogether, so no payload holds a `null`; reading a payload gives the record back.
-/

namespace Contention

open Json

namespace Frame

/-- The frame as an object with three strings. -/
def toValue (f : Frame) : Value :=
  .object [("class", .string f.declaringClass), ("method", .string f.methodName),
    ("signature", .string f.signature)]

/-- How a frame is written. -/
def schema : Schema Frame where
  title := "StackFrameDescriptor"
  blank := ⟨"", "", ""⟩
  fields :=
    [.of "class" true string fun f s => { f with declaringClass := s },
     .of "method" true string fun f s => { f with methodName := s },
     .of "signature" true string fun f s => { f with signature := s }]

end Frame

namespace Record

/-- The members that are present, in the order of the fields. -/
def members (r : Record) : List (String × Value) :=
  [("Class", Value.string r.className), ("numTypeContentions", .integer r.count.toNat)] ++
    (r.stackTrace.map fun fs => ("stackTrace", Value.array (fs.map Frame.toValue))).toList ++
    (r.threadName.map fun s => ("threadName", Value.string s)).toList ++
    (r.osThreadId.map fun id => ("threadID", Value.integer id.toInt)).toList

/-- The record as an object. -/
def toValue (r : Record) : Value := .object r.members

/-- The compact JSON text of a record. -/
def payload (r : Record) : String := String.ofList r.toValue.render

/-- How a record is written. -/
def schema : Schema Record where
  title := "ContentionEventRecord"
  blank := { className := "", count := 0 }
  fields :=
    [.of "Class" true string fun r s => { r with className := s },
     .of "numTypeContentions" true (word .count) fun r n => { r with count := n },
     .of "stackTrace" false (nullable (list Frame.schema.read)) fun r fs =>
       { r with stackTrace := fs },
     .of "threadName" false (nullable string) fun r s => { r with threadName := s },
     .of "threadID" false (nullable int64) fun r id => { r with osThreadId := id }]

/-- Read a record from its JSON text. -/
def ofText (text : String) : Except Fault Record := whole schema.read text

end Record

end Contention
