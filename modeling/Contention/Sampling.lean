/-!
# Sampling decisions

A `Sampling` value is the state that every contention event consults before anything else is
done for it: a switch, a rate, the number of decisions taken so far, and the depth of the
stacks to capture for the admitted events.

One event in `rate` is admitted, counting from the first one. The number of decisions
advances with **every** decision, those taken while the switch is off included, so a stretch
without sampling keeps the phase. A positive rate turns the switch on; a rate that is zero or
negative turns it off and leaves the stored rate alone, so the stored rate stays positive.
-/

namespace Contention

/-- The deepest stack that is ever asked for. -/
def maxDepth : Nat := 128

/-- The state behind sampling decisions. -/
structure Sampling where
  /-- Whether events may be admitted at all. -/
  enabled : Bool := true
  /-- One event in this many is admitted. -/
  rate : Int := 1
  /-- How many frames to capture for an admitted event. -/
  depth : Nat := 0
  /-- How many decisions were taken, as a 64-bit word. -/
  decisions : UInt64 := 0
deriving DecidableEq, Repr, Inhabited

namespace Sampling

/-- Turn the switch on or off. -/
def setEnabled (s : Sampling) (on : Bool) : Sampling :=
  { s with enabled := on }

/-- A positive rate is stored and turns the switch on; any other rate only turns it off. -/
def setRate (s : Sampling) (rate : Int) : Sampling :=
  if 0 < rate then { s with enabled := true, rate := rate } else { s with enabled := false }

/-- The depth is brought into the range from `0` to `maxDepth`. -/
def setDepth (s : Sampling) (depth : Int) : Sampling :=
  { s with depth := min depth.toNat maxDepth }

/-- Whether the next decision admits its event. -/
def admits (s : Sampling) : Bool :=
  s.enabled && decide (0 < s.rate) && s.decisions.toNat % s.rate.toNat == 0

/-- Take one decision. -/
def next (s : Sampling) : Bool × Sampling :=
  (s.admits, { s with decisions := s.decisions + 1 })

/-- Take `n` decisions and list the numbers of those that admitted their event. -/
def take (s : Sampling) : Nat → List UInt64 × Sampling
  | 0 => ([], s)
  | n + 1 =>
    let (admitted, s') := s.next
    let (later, last) := s'.take n
    (if admitted then s.decisions :: later else later, last)

end Sampling

end Contention
