/-!
# Operational counters

Nine counters say what became of the contention events. Each is a 64-bit word that starts at
zero and grows by one at a time. Of these only `recordsDropped` never grows in a monitor.
-/

namespace Contention

/-- What the monitor has done so far, in numbers. -/
structure Metrics where
  /-- Events reported by the host. -/
  eventsSeen : UInt64 := 0
  /-- Events admitted by the sampling decision. -/
  eventsSampled : UInt64 := 0
  /-- Admitted events whose object's type could not be told. -/
  unresolvedObjects : UInt64 := 0
  /-- Records handed to the sink. -/
  recordsEmitted : UInt64 := 0
  /-- Records that could not be written out. -/
  recordsDropped : UInt64 := 0
  /-- Stacks asked for. -/
  stacksAttempted : UInt64 := 0
  /-- Stacks of which at least one frame was resolved. -/
  stacksCaptured : UInt64 := 0
  /-- Captured stacks that end early at a failing frame. -/
  stacksTruncated : UInt64 := 0
  /-- Failures that cost a record one of its optional parts. -/
  softFailures : UInt64 := 0
deriving DecidableEq, Repr, Inhabited

namespace Metrics

/-- One more event was reported. -/
def event (m : Metrics) : Metrics := { m with eventsSeen := m.eventsSeen + 1 }

/-- One more event was admitted. -/
def sampled (m : Metrics) : Metrics := { m with eventsSampled := m.eventsSampled + 1 }

/-- One more object's type could not be told. -/
def unresolved (m : Metrics) : Metrics := { m with unresolvedObjects := m.unresolvedObjects + 1 }

/-- One more record was handed to the sink. -/
def emitted (m : Metrics) : Metrics := { m with recordsEmitted := m.recordsEmitted + 1 }

/-- One more record could not be written out. No event of a monitor leads here: a record is made of
texts and integers, and every such record has a payload. -/
def dropped (m : Metrics) : Metrics := { m with recordsDropped := m.recordsDropped + 1 }

/-- One more record lost one of its optional parts. -/
def softFailure (m : Metrics) : Metrics := { m with softFailures := m.softFailures + 1 }

/-- One attempt at a stack, which may have been captured and may have been cut short. -/
def stackAttempt (m : Metrics) (captured truncated : Bool) : Metrics :=
  { m with
    stacksAttempted := m.stacksAttempted + 1
    stacksCaptured := if captured then m.stacksCaptured + 1 else m.stacksCaptured
    stacksTruncated := if truncated then m.stacksTruncated + 1 else m.stacksTruncated }

end Metrics

end Contention
