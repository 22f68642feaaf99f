import Contention.Stack

/-!
# Several hosts side by side

A `Workbench` holds hosts and everything that they have given out: methods, classes and buffers,
host strings that wrap a buffer, and frame resolvers, each numbered in the order of its creation.
Methods, classes and buffers of one host may be used with another. A buffer is used up when it
is given back or wrapped, and a host string when it is dropped.
-/

namespace Contention

open Log (Entry)

/-- A buffer that will be given back to a certain host. -/
structure HostString where
  owner : Nat
  buffer : Buffer
deriving DecidableEq, Repr

/-- A resolver that describes methods by a certain host. -/
structure OwnedResolver where
  owner : Nat
  resolver : FrameResolver
deriving DecidableEq, Repr

/-- Hosts and what they have given out. -/
structure Workbench where
  hosts : List Host
  methods : List Method := []
  classes : List DeclaringClass := []
  /-- The buffers lent, `none` once used up. -/
  buffers : List (Option Buffer) := []
  /-- The host strings made, `none` once dropped. -/
  strings : List (Option HostString) := []
  resolvers : List OwnedResolver := []
  log : List Entry := []
deriving DecidableEq, Repr

namespace Workbench

/-- A request to one of the hosts; things given out earlier go by their numbers. -/
inductive Request where
  | objectClass (object : Nat)
  | stackTrace (thread start most : Nat)
  | methodName (method : Nat)
  | declaringClass (method : Nat)
  | classSignature (cls : Nat)
  | threadInfo (thread : Nat)
  | osThreadId (thread : Nat)
  | deallocate (buffer : Nat)
  | wrap (buffer : Nat)
  | dropString (string : Nat)
  | capture (thread depth : Nat)
  | resolver (methods : List Nat)
  | next (resolver : Nat)
deriving DecidableEq, Repr

/-- A numbered buffer or host string with its text. -/
structure Numbered where
  number : Nat
  text : String
deriving DecidableEq, Repr

/-- The state of a resolver and the frame it has just given. -/
structure Resolving where
  number : Nat
  frame : Option Frame
  remaining : Nat
  failure : Option HostError
deriving DecidableEq, Repr

/-- The answer to a request. -/
inductive Reply where
  | done
  | failed (cause : HostError)
  | className (name : String)
  | methods (numbers : List Nat)
  | methodName (name signature : Numbered)
  | declaringClass (number : Nat)
  | buffer (buffer : Numbered)
  | osThreadId (id : Int64)
  | string (string : Numbered)
  | captured (stack : Option CapturedStack)
  | resolving (state : Resolving)
deriving DecidableEq, Repr

/-! ### What hosts give out -/

/-- The workbench with a host replaced. -/
def setHost (w : Workbench) (index : Nat) (h : Host) : Workbench :=
  { w with hosts := w.hosts.set index h }

/-- Number a buffer. -/
def addBuffer (w : Workbench) (b : Buffer) : Numbered × Workbench :=
  (⟨w.buffers.length, b.text⟩, { w with buffers := w.buffers ++ [some b] })

/-- Use a buffer up. -/
def useBuffer (w : Workbench) (number : Nat) : Workbench :=
  { w with buffers := w.buffers.set number none }

/-- Number a host string. -/
def addString (w : Workbench) (s : HostString) : Numbered × Workbench :=
  (⟨w.strings.length, s.buffer.text⟩, { w with strings := w.strings ++ [some s] })

/-- Number methods. -/
def addMethods (w : Workbench) (ms : List Method) : List Nat × Workbench :=
  (List.range' w.methods.length ms.length, { w with methods := w.methods ++ ms })

/-- Number a class. -/
def addClass (w : Workbench) (c : DeclaringClass) : Nat × Workbench :=
  (w.classes.length, { w with classes := w.classes ++ [c] })

/-- The state of a resolver, with the frame it has just given. -/
def resolving (number : Nat) (frame : Option Frame) (r : FrameResolver) : Resolving :=
  ⟨number, frame, r.remaining, r.failure⟩

/-! ### Requests -/

/-- Answer a request to the host with the given number; `none` if the request speaks of something
that does not exist or has been used up. -/
def step (w : Workbench) (index : Nat) (request : Request) : Option (Reply × Workbench) := do
  let h ← w.hosts[index]?
  match request with
  | .objectClass object =>
    match h.objectClass object with
    | (.error e, h) => return (.failed e, w.setHost index h)
    | (.ok name, h) => return (.className name, w.setHost index h)
  | .stackTrace thread start most =>
    match h.stackTrace thread start most with
    | (.error e, h) => return (.failed e, w.setHost index h)
    | (.ok ms, h) =>
      let (numbers, w) := (w.setHost index h).addMethods ms
      return (.methods numbers, w)
  | .methodName method =>
    let m ← w.methods[method]?
    match h.methodName m with
    | (.error e, h) => return (.failed e, w.setHost index h)
    | (.ok (name, signature), h) =>
      let (name, w) := (w.setHost index h).addBuffer name
      let (signature, w) := w.addBuffer signature
      return (.methodName name signature, w)
  | .declaringClass method =>
    let m ← w.methods[method]?
    match h.declaringClass m with
    | (.error e, h) => return (.failed e, w.setHost index h)
    | (.ok c, h) =>
      let (number, w) := (w.setHost index h).addClass c
      return (.declaringClass number, w)
  | .classSignature cls =>
    let c ← w.classes[cls]?
    match h.classSignature c with
    | (.error e, h) => return (.failed e, w.setHost index h)
    | (.ok b, h) =>
      let (buffer, w) := (w.setHost index h).addBuffer b
      return (.buffer buffer, w)
  | .threadInfo thread =>
    match h.threadInfo thread with
    | (.error e, h) => return (.failed e, w.setHost index h)
    | (.ok b, h) =>
      let (buffer, w) := (w.setHost index h).addBuffer b
      return (.buffer buffer, w)
  | .osThreadId thread =>
    match h.osThreadId thread with
    | (.error e, h) => return (.failed e, w.setHost index h)
    | (.ok id, h) => return (.osThreadId id, w.setHost index h)
  | .deallocate buffer =>
    let b ← (← w.buffers[buffer]?)
    match h.deallocate b with
    | (.error e, h) => return (.failed e, (w.setHost index h).useBuffer buffer)
    | (.ok (), h) => return (.done, (w.setHost index h).useBuffer buffer)
  | .wrap buffer =>
    let b ← (← w.buffers[buffer]?)
    let (string, w) := (w.useBuffer buffer).addString ⟨index, b⟩
    return (.string string, w)
  | .dropString string =>
    let s ← (← w.strings[string]?)
    let owner ← w.hosts[s.owner]?
    let (log, owner) := owner.release s.buffer
    return (.done, { w.setHost s.owner owner with
      strings := w.strings.set string none
      log := w.log ++ log })
  | .capture thread depth =>
    let captured := h.capture thread depth
    return (.captured captured.result,
      { w.setHost index captured.host with log := w.log ++ captured.log })
  | .resolver methods =>
    let ms ← methods.mapM fun number => w.methods[number]?
    let r : FrameResolver := { pending := ms }
    return (.resolving (resolving w.resolvers.length none r),
      { w with resolvers := w.resolvers ++ [⟨index, r⟩] })
  | .next number =>
    let r ← w.resolvers[number]?
    let owner ← w.hosts[r.owner]?
    let given := r.resolver.next owner
    let (frame, resolver) := given.result
    return (.resolving (resolving number frame resolver),
      { w.setHost r.owner given.host with
        resolvers := w.resolvers.set number { r with resolver := resolver }
        log := w.log ++ given.log })

end Workbench

end Contention
