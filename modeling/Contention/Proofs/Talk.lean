import Contention.Station
import Contention.Proofs.Dialogue

/-!
# An event, one action at a time

An event is observed by many small actions on what all callers share: a sampling decision, single
counters of the metrics, calls to the host, the tally, the sink and the log. `Talk.observe` spells
them out as a dialogue; so do `Talk.capture` and the other dialogues for the parts of it. Nothing is
known in them about the answers.

Held with a station, action after action without a gap, a dialogue comes to the same as the function
of its name: `Talk.run_observe` and `Talk.run_capture` are the main statements. So what is proved of
the dialogues' paths and transcripts holds of `Station.observe` and `Host.capture`.
-/

namespace Contention

open Log (Entry)

/-! ### Actions -/

/-- A call to a host. -/
inductive Query where
  | objectClass (object : Nat)
  | stackTrace (thread start most : Nat)
  | methodName (m : Method)
  | declaringClass (m : Method)
  | classSignature (c : DeclaringClass)
  | threadInfo (thread : Nat)
  | osThreadId (thread : Nat)
  | deallocate (buffer : Buffer)
deriving DecidableEq, Repr

/-- How a call is answered. -/
def Query.Answer : Query → Type
  | .objectClass _ => Except HostError String
  | .stackTrace .. => Except HostError (List Method)
  | .methodName _ => Except HostError (Buffer × Buffer)
  | .declaringClass _ => Except HostError DeclaringClass
  | .classSignature _ => Except HostError Buffer
  | .threadInfo _ => Except HostError Buffer
  | .osThreadId _ => Except HostError Int64
  | .deallocate _ => Except HostError Unit

/-- The host's answer to a call. -/
def Host.answer (h : Host) : (q : Query) → q.Answer × Host
  | .objectClass object => h.objectClass object
  | .stackTrace thread start most => h.stackTrace thread start most
  | .methodName m => h.methodName m
  | .declaringClass m => h.declaringClass m
  | .classSignature c => h.classSignature c
  | .threadInfo thread => h.threadInfo thread
  | .osThreadId thread => h.osThreadId thread
  | .deallocate buffer => h.deallocate buffer

/-- A counter that observing an event raises. -/
inductive Counter where
  | eventsSeen
  | eventsSampled
  | unresolvedObjects
  | recordsEmitted
  | stacksAttempted
  | stacksCaptured
  | stacksTruncated
  | softFailures
deriving DecidableEq, Repr

/-- Raise one counter. -/
def Metrics.bump (m : Metrics) : Counter → Metrics
  | .eventsSeen => m.event
  | .eventsSampled => m.sampled
  | .unresolvedObjects => m.unresolved
  | .recordsEmitted => m.emitted
  | .stacksAttempted => { m with stacksAttempted := m.stacksAttempted + 1 }
  | .stacksCaptured => { m with stacksCaptured := m.stacksCaptured + 1 }
  | .stacksTruncated => { m with stacksTruncated := m.stacksTruncated + 1 }
  | .softFailures => m.softFailure

/-- One indivisible action on what all callers share. -/
inductive Action where
  /-- Take a sampling decision. -/
  | decide
  /-- Look up the depth of stacks. -/
  | depth
  /-- Raise a counter of the metrics. -/
  | bump (counter : Counter)
  /-- Call the host. -/
  | call (query : Query)
  /-- Count an event under its type. -/
  | count (name : String)
  /-- Hand a payload to the sink. -/
  | send (payload : String)
  /-- Write a line to the log. -/
  | log (entry : Entry)
deriving DecidableEq, Repr

/-- What an action answers. -/
def Action.Answer : Action → Type
  | .decide => Bool
  | .depth => Nat
  | .bump _ => Unit
  | .call query => query.Answer
  | .count _ => UInt64
  | .send _ => Unit
  | .log _ => Unit

namespace Station

/-- The station with another host and more lines in its log. -/
def talked (s : Station) (h : Host) (log : List Entry) : Station :=
  { s with monitor := { s.monitor with host := h }, log := s.log ++ log }

/-- The station with other metrics. -/
def measured (s : Station) (m : Metrics) : Station :=
  { s with monitor := { s.monitor with metrics := m } }

/-- Perform one action. -/
def perform (s : Station) : (a : Action) → a.Answer × Station
  | .decide =>
    (s.monitor.sampling.admits,
      { s with monitor := { s.monitor with sampling := s.monitor.sampling.next.2 } })
  | .depth => (s.monitor.sampling.depth, s)
  | .bump counter => ((), s.measured (s.monitor.metrics.bump counter))
  | .call query =>
    ((s.monitor.host.answer query).1, s.talked (s.monitor.host.answer query).2 [])
  | .count name =>
    ((s.monitor.tally.record name).1,
      { s with monitor := { s.monitor with tally := (s.monitor.tally.record name).2 } })
  | .send payload =>
    ((), { s with sink := (s.sink.send payload).2, log := s.log ++ (s.sink.send payload).1 })
  | .log entry => ((), { s with log := s.log ++ [entry] })

end Station

/-- A dialogue of actions. -/
abbrev Talk (α : Type) := Dialogue Action Action.Answer α

namespace Talk

/-! ### The dialogues -/

/-- Take a sampling decision. -/
def admitted : Talk Bool := Dialogue.request Action.decide

/-- Look up the depth of stacks. -/
def depth : Talk Nat := Dialogue.request Action.depth

/-- Raise a counter of the metrics. -/
def bump (c : Counter) : Talk Unit := Dialogue.request (Action.bump c)

/-- Call the host. -/
def call (q : Query) : Talk q.Answer := Dialogue.request (Action.call q)

/-- Count an event under its type. -/
def count (name : String) : Talk UInt64 := Dialogue.request (Action.count name)

/-- Hand a payload to the sink. -/
def send (payload : String) : Talk Unit := Dialogue.request (Action.send payload)

/-- Write a line to the log. -/
def log (e : Entry) : Talk Unit := Dialogue.request (Action.log e)

/-- Give a buffer back and log a refusal. -/
def release (buffer : Buffer) : Talk Unit := do
  match ← call (.deallocate buffer) with
  | .ok () => pure ()
  | .error e => log (.releaseFailed e)

/-- Give buffers back one after the other. -/
def releaseAll : List Buffer → Talk Unit
  | [] => pure ()
  | b :: rest => do
    release b
    releaseAll rest

/-- End with a result after giving buffers back. -/
def finish (buffers : List Buffer) (result : α) : Talk α := do
  releaseAll buffers
  pure result

/-- Describe one method. -/
def resolve (m : Method) : Talk (Except HostError Frame) := do
  match ← call (.methodName m) with
  | .error e => pure (.error e)
  | .ok (name, signature) =>
    match ← call (.declaringClass m) with
    | .error e => finish [signature, name] (.error e)
    | .ok c =>
      match ← call (.classSignature c) with
      | .error e => finish [signature, name] (.error e)
      | .ok cls => finish [cls, signature, name] (.ok ⟨cls.text, name.text, signature.text⟩)

/-- Describe methods up to the first failure. -/
def resolveAll : List Method → Talk (List Frame × Option HostError)
  | [] => pure ([], none)
  | m :: rest => do
    match ← resolve m with
    | .error e => pure ([], some e)
    | .ok frame =>
      let later ← resolveAll rest
      pure (frame :: later.1, later.2)

/-- Describe methods and note an early end. -/
def describe (methods : List Method) : Talk (Option CapturedStack) := do
  let resolved ← resolveAll methods
  match resolved.2 with
  | none => pure ()
  | some e => log (.stackTruncated e resolved.1.length)
  pure (if resolved.1.isEmpty then none else some ⟨resolved.1, resolved.2.isSome⟩)

/-- Capture up to `depth` frames of a thread. -/
def capture (thread depth : Nat) : Talk (Option CapturedStack) := do
  if depth = 0 then pure none
  else
    match ← call (.stackTrace thread 0 (min depth maxDepth)) with
    | .error e =>
      log (.stackUnavailable e)
      pure none
    | .ok [] => pure none
    | .ok methods => describe (methods.take (min depth maxDepth))

/-- Raise a counter on a condition. -/
def bumpIf (condition : Bool) (counter : Counter) : Talk Unit :=
  if condition then bump counter else pure ()

/-- The frames of a thread. -/
def findStack (depth thread : Nat) : Talk (Option (List Frame)) := do
  if depth = 0 then pure none
  else
    let captured ← capture thread depth
    let truncated := captured.any CapturedStack.truncated
    bump .stacksAttempted
    bumpIf captured.isSome .stacksCaptured
    bumpIf truncated .stacksTruncated
    bumpIf (captured.isNone || truncated) .softFailures
    pure (captured.map CapturedStack.frames)

/-- The name of a thread. -/
def findThreadName (thread : Nat) : Talk (Option String) := do
  match ← call (.threadInfo thread) with
  | .error e =>
    log (.threadInfoUnavailable e)
    bump .softFailures
    pure none
  | .ok name => finish [name] (some name.text)

/-- The id of a thread in the operating system. -/
def findOsThreadId (thread : Nat) : Talk (Option Int64) := do
  match ← call (.osThreadId thread) with
  | .error e =>
    log (.threadIdUnavailable e)
    bump .softFailures
    pure none
  | .ok id => pure (some id)

/-- Describe an admitted event, send its record, and tell the outcome. -/
def emit (name : String) (count : UInt64) (thread : Nat) : Talk Outcome := do
  let depth ← depth
  let stack ← findStack depth thread
  let threadName ← findThreadName thread
  let osThreadId ← findOsThreadId thread
  let record : Record :=
    { className := name
      count := count
      stackTrace := stack
      threadName := threadName
      osThreadId := osThreadId }
  send record.payload
  bump .recordsEmitted
  pure (.emitted count)

/-- Observe an event. -/
def observe (thread object : Nat) : Talk Outcome := do
  bump .eventsSeen
  match ← admitted with
  | false => pure .notSampled
  | true =>
    bump .eventsSampled
    match ← call (.objectClass object) with
    | .error e =>
      log (.objectUnresolved e)
      bump .unresolvedObjects
      pure .unresolved
    | .ok name =>
      let count ← count name
      emit name count thread

/-! ### Dialogues with a station -/

section Run

variable (s : Station)

@[simp]
theorem run_admitted :
    admitted.run Station.perform s =
      (s.monitor.sampling.admits,
        { s with monitor := { s.monitor with sampling := s.monitor.sampling.next.2 } }) := rfl

@[simp]
theorem run_depth : depth.run Station.perform s = (s.monitor.sampling.depth, s) := rfl

@[simp]
theorem run_bump (c : Counter) :
    (bump c).run Station.perform s = ((), s.measured (s.monitor.metrics.bump c)) := rfl

@[simp]
theorem run_count (name : String) :
    (count name).run Station.perform s =
      ((s.monitor.tally.record name).1,
        { s with monitor := { s.monitor with tally := (s.monitor.tally.record name).2 } }) := rfl

@[simp]
theorem run_send (payload : String) :
    (send payload).run Station.perform s =
      ((), { s with sink := (s.sink.send payload).2, log := s.log ++ (s.sink.send payload).1 }) :=
  rfl

@[simp]
theorem run_log (e : Entry) :
    (log e).run Station.perform s = ((), { s with log := s.log ++ [e] }) := rfl

@[simp]
theorem run_call (q : Query) :
    (call q).run Station.perform s =
      ((s.monitor.host.answer q).1, s.talked (s.monitor.host.answer q).2 []) := rfl

private theorem run_release (b : Buffer) :
    (release b).run Station.perform s =
      ((), s.talked (s.monitor.host.release b).2 (s.monitor.host.release b).1) := by
  rcases hd : s.monitor.host.deallocate b with ⟨e | ⟨⟩, h⟩ <;>
    simp [release, Host.answer, Host.release, hd, Station.talked]

private theorem run_releaseAll (bs : List Buffer) :
    (releaseAll bs).run Station.perform s =
      ((), s.talked (s.monitor.host.releaseAll bs).2 (s.monitor.host.releaseAll bs).1) := by
  induction bs generalizing s with
  | nil => simp [releaseAll, Host.releaseAll, Station.talked]
  | cons b rest ih =>
    simp [releaseAll, Host.releaseAll, run_release, ih, Station.talked]

private theorem run_finish (bs : List Buffer) (a : α) :
    (finish bs a).run Station.perform s =
      (a, s.talked (s.monitor.host.finish bs a).host (s.monitor.host.finish bs a).log) := by
  simp [finish, run_releaseAll, Host.finish]

theorem run_resolve (m : Method) :
    (resolve m).run Station.perform s =
      ((s.monitor.host.resolve m).result,
        s.talked (s.monitor.host.resolve m).host (s.monitor.host.resolve m).log) := by
  rcases hname : s.monitor.host.methodName m with ⟨e | ⟨name, signature⟩, h₁⟩
  · simp [resolve, Host.resolve, Host.answer, hname]
  rcases hclass : h₁.declaringClass m with ⟨e | c, h₂⟩
  · simp [resolve, Host.resolve, Host.answer, hname, hclass, run_finish, Station.talked,
      Host.finish]
  rcases hsig : h₂.classSignature c with ⟨e | cls, h₃⟩ <;>
    simp [resolve, Host.resolve, Host.answer, hname, hclass, hsig, run_finish, Station.talked,
      Host.finish]

private theorem run_resolveAll (ms : List Method) :
    (resolveAll ms).run Station.perform s =
      ((s.monitor.host.resolveAll ms).result,
        s.talked (s.monitor.host.resolveAll ms).host (s.monitor.host.resolveAll ms).log) := by
  induction ms generalizing s with
  | nil => simp [resolveAll, Host.resolveAll, Station.talked]
  | cons m rest ih =>
    rcases hr : s.monitor.host.resolve m with ⟨e | frame, h, log⟩
    · simp [resolveAll, Host.resolveAll, run_resolve, hr]
    · simp [resolveAll, Host.resolveAll, run_resolve, hr, ih, Station.talked]

private theorem run_describe (ms : List Method) :
    (describe ms).run Station.perform s =
      ((s.monitor.host.describe ms).result,
        s.talked (s.monitor.host.describe ms).host (s.monitor.host.describe ms).log) := by
  rcases hr : s.monitor.host.resolveAll ms with ⟨⟨frames, _ | e⟩, h, log⟩ <;>
    simp [describe, Host.describe, run_resolveAll, hr, Station.talked]

/-- **A capture as a dialogue.** -/
theorem run_capture (thread depth : Nat) :
    (capture thread depth).run Station.perform s =
      ((s.monitor.host.capture thread depth).result,
        s.talked (s.monitor.host.capture thread depth).host
          (s.monitor.host.capture thread depth).log) := by
  by_cases hd : depth = 0
  · simp [capture, Host.capture, hd, Station.talked]
  rcases ht : s.monitor.host.stackTrace thread 0 (min depth maxDepth) with ⟨e | _ | ⟨m, ms⟩, h⟩
  · simp [capture, Host.capture, Host.answer, hd, ht, Station.talked]
  · simp [capture, Host.capture, Host.answer, hd, ht]
  · simp [capture, Host.capture, Host.answer, hd, ht, run_describe, Station.talked]

/-- The station after something was found out. -/
private def found (f : Finding α) : Station := (s.talked f.host f.log).measured f.metrics

@[simp]
theorem run_bumpIf (condition : Bool) (c : Counter) :
    (bumpIf condition c).run Station.perform s =
      ((), if condition then s.measured (s.monitor.metrics.bump c) else s) := by
  cases condition <;> simp [bumpIf]

private theorem run_findStack (depth thread : Nat) :
    (findStack depth thread).run Station.perform s =
      ((Contention.findStack s.monitor.host s.monitor.metrics depth thread).value,
        found s (Contention.findStack s.monitor.host s.monitor.metrics depth thread)) := by
  by_cases hd : depth = 0
  · simp [findStack, Contention.findStack, hd, found, Station.talked, Station.measured]
  rcases hc : s.monitor.host.capture thread depth with ⟨_ | ⟨frames, _ | _⟩, h, log⟩ <;>
    simp [findStack, Contention.findStack, hd, run_capture, hc, found, Station.talked,
      Station.measured, Metrics.bump, Metrics.stackAttempt, Metrics.softFailure]

private theorem run_findThreadName (thread : Nat) :
    (findThreadName thread).run Station.perform s =
      ((Contention.findThreadName s.monitor.host s.monitor.metrics thread).value,
        found s (Contention.findThreadName s.monitor.host s.monitor.metrics thread)) := by
  rcases hi : s.monitor.host.threadInfo thread with ⟨e | name, h⟩ <;>
    simp [findThreadName, Contention.findThreadName, Host.answer, hi, run_finish, Host.finish,
      Host.releaseAll, found, Station.talked, Station.measured, Metrics.bump]

private theorem run_findOsThreadId (thread : Nat) :
    (findOsThreadId thread).run Station.perform s =
      ((Contention.findOsThreadId s.monitor.host s.monitor.metrics thread).value,
        found s (Contention.findOsThreadId s.monitor.host s.monitor.metrics thread)) := by
  rcases hi : s.monitor.host.osThreadId thread with ⟨e | id, h⟩ <;>
    simp [findOsThreadId, Contention.findOsThreadId, Host.answer, hi, found, Station.talked,
      Station.measured, Metrics.bump]

/-- Describing an event and sending its record, as the station does it. -/
private theorem run_emit (name : String) (count : UInt64) (thread : Nat) :
    (emit name count thread).run Station.perform s =
      ((s.monitor.describe name count thread).1.outcome,
        { monitor := (s.monitor.describe name count thread).2
          sink := match (s.monitor.describe name count thread).1.record with
            | none => s.sink
            | some record => (s.sink.send record.payload).2
          log := s.log ++ (s.monitor.describe name count thread).1.log ++
            match (s.monitor.describe name count thread).1.record with
            | none => []
            | some record => (s.sink.send record.payload).1 }) := by
  simp [emit, run_findStack, run_findThreadName, run_findOsThreadId, found, Station.talked,
    Station.measured, Monitor.describe, Metrics.bump]

/-- **An event as a dialogue.** -/
theorem run_observe (thread object : Nat) :
    (observe thread object).run Station.perform s = s.observe thread object := by
  rcases ha : s.monitor.sampling.admits with _ | _
  · simp [observe, Station.observe, Monitor.observe, Sampling.next, ha, Station.measured,
      Metrics.bump]
  rcases ho : s.monitor.host.objectClass object with ⟨e | name, h⟩
  · simp [observe, Station.observe, Monitor.observe, Sampling.next, ha, Host.answer, ho,
      Station.measured, Station.talked, Metrics.bump]
  · simp [observe, Station.observe, Monitor.observe, Sampling.next, ha, Host.answer, ho,
      Station.measured, Station.talked, Metrics.bump, run_emit]
    -- the sink and its lines depend on whether there is a record
    constructor <;> split <;> simp [*]

end Run

end Talk

end Contention
