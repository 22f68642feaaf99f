import Contention.Host
import Contention.Record

/-!
# Stack capture

Frames are taken from the host in one call and then resolved one at a time. Resolution stops at
the first frame that the host cannot describe; what was resolved before it is kept. Every buffer
that is lent on the way is given back before the frame is done, also when it fails.
-/

namespace Contention

open Log (Entry)

/-- What came out of talking to a host: a result, the host afterwards, and what was logged. -/
structure Exchange (α : Type) where
  result : α
  host : Host
  log : List Entry

/-- End an exchange by giving buffers back. -/
def Host.finish (h : Host) (buffers : List Buffer) (result : α) : Exchange α :=
  let (log, h) := h.releaseAll buffers
  ⟨result, h, log⟩

/-- Describe one method. The buffers go back in the reverse order of their loan. -/
def Host.resolve (h : Host) (m : Method) : Exchange (Except HostError Frame) :=
  match h.methodName m with
  | (.error e, h) => ⟨.error e, h, []⟩
  | (.ok (name, signature), h) =>
    match h.declaringClass m with
    | (.error e, h) => h.finish [signature, name] (.error e)
    | (.ok c, h) =>
      match h.classSignature c with
      | (.error e, h) => h.finish [signature, name] (.error e)
      | (.ok cls, h) =>
        h.finish [cls, signature, name] (.ok ⟨cls.text, name.text, signature.text⟩)

/-! ### One frame at a time -/

/-- Methods still to be described, and the failure that ended it. -/
structure FrameResolver where
  pending : List Method
  failure : Option HostError := none
deriving DecidableEq, Repr

namespace FrameResolver

/-- An upper bound on the number of frames to come. -/
def remaining (r : FrameResolver) : Nat :=
  if r.failure.isSome then 0 else r.pending.length

/-- A lower and an upper bound on the number of frames to come. Any method may fail, so nothing is
promised. -/
def sizeHint (r : FrameResolver) : Nat × Option Nat := (0, some r.remaining)

/-- Describe the next method. After a failure, and at the end, nothing happens any more. -/
def next (r : FrameResolver) (h : Host) : Exchange (Option Frame × FrameResolver) :=
  match r.failure, r.pending with
  | none, m :: rest =>
    match h.resolve m with
    | ⟨.ok frame, h, log⟩ => ⟨(some frame, { r with pending := rest }), h, log⟩
    | ⟨.error e, h, log⟩ => ⟨(none, { pending := rest, failure := some e }), h, log⟩
  | _, _ => ⟨(none, r), h, []⟩

end FrameResolver

/-! ### Whole stacks -/

/-- The frames resolved for one event. -/
structure CapturedStack where
  frames : List Frame
  /-- Whether a failing frame ended the resolution. -/
  truncated : Bool
deriving DecidableEq, Repr

namespace Host

/-- Describe methods up to the first failure, which is given beside the frames. -/
def resolveAll (h : Host) : List Method → Exchange (List Frame × Option HostError)
  | [] => ⟨([], none), h, []⟩
  | m :: rest =>
    match h.resolve m with
    | ⟨.error e, h, log⟩ => ⟨([], some e), h, log⟩
    | ⟨.ok frame, h, log⟩ =>
      let later := h.resolveAll rest
      ⟨(frame :: later.result.1, later.result.2), later.host, log ++ later.log⟩

/-- Describe methods and note an early end; without any frame there is no stack. -/
def describe (h : Host) (methods : List Method) : Exchange (Option CapturedStack) :=
  let resolved := h.resolveAll methods
  let frames := resolved.result.1
  let note := match resolved.result.2 with
    | none => []
    | some e => [Entry.stackTruncated e frames.length]
  ⟨if frames.isEmpty then none else some ⟨frames, resolved.result.2.isSome⟩,
    resolved.host, resolved.log ++ note⟩

/-- Capture up to `depth` frames of a thread, and never more than `maxDepth`. With depth zero the
host is not asked at all. -/
def capture (h : Host) (thread depth : Nat) : Exchange (Option CapturedStack) :=
  if depth = 0 then ⟨none, h, []⟩
  else
    let most := min depth maxDepth
    match h.stackTrace thread 0 most with
    | (.error e, h) => ⟨none, h, [.stackUnavailable e]⟩
    | (.ok [], h) => ⟨none, h, []⟩
    | (.ok methods, h) => h.describe (methods.take most)

end Host

end Contention
