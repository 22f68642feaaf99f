/-!
# Contention records

A `Record` holds everything that is known about one sampled contention event. What the host
could not tell stays `none`.
-/

namespace Contention

/-- One resolved level of a call stack. -/
structure Frame where
  declaringClass : String
  methodName : String
  signature : String
deriving DecidableEq, Repr, Inhabited

/-- What is known about one sampled contention event. -/
structure Record where
  /-- The type of the contended object. -/
  className : String
  /-- How many events of this type have been recorded, this one included. -/
  count : UInt64
  /-- The frames of the contending thread, innermost first. -/
  stackTrace : Option (List Frame) := none
  threadName : Option String := none
  osThreadId : Option Int64 := none
deriving DecidableEq, Repr, Inhabited

end Contention
