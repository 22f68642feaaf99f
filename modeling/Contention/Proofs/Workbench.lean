import Mathlib.Data.List.ReduceOption
import Mathlib.Data.Nat.ModEq
import Contention.Workbench
import Contention.Proofs.Trace

/-!
# Buffers on a workbench

Several hosts stand side by side on a `Workbench`, and what one of them has given out may be used
with another: a buffer that one host lent can be handed back to a second one, be it directly or as
part of a host string. The counter of a single host says little then. It may even pass zero, and it
wraps around if it does.

A `Service` is a call with its answer, and `Host.Serves` says that a host answers calls in this way
and is left as another one. What one request can do is said once, in `serves_step`: **one** host
serves the calls of the request, all others are left alone, and buffers come to the live ones and go
from them as the calls lend them and take them back. `Workbench.Runs` repeats it, and what a run
does to buffers, to one host and to the sum of all counters follows by induction over it.
-/

namespace Contention

open Dialogue

/-! ### Services -/

/-- A call to a host with its answer. -/
abbrev Service := (q : Query) × q.Answer

namespace Service

/-- The buffers that were lent. -/
def lent (services : List Service) : Multiset Buffer :=
  (services.map fun c => c.1.lent c.2).sum

/-- The buffers that were handed back. -/
def returned (services : List Service) : Multiset Buffer :=
  (services.map fun c => c.1.returned).sum

private theorem lent_cons (q : Query) (answer : q.Answer) (rest : List Service) :
    lent (⟨q, answer⟩ :: rest) = q.lent answer + lent rest := List.sum_cons

private theorem returned_cons (q : Query) (answer : q.Answer) (rest : List Service) :
    returned (⟨q, answer⟩ :: rest) = q.returned + returned rest := List.sum_cons

private theorem lent_append (first later : List Service) :
    lent (first ++ later) = lent first + lent later := by
  rw [lent, List.map_append, List.sum_append, ← lent, ← lent]

private theorem returned_append (first later : List Service) :
    returned (first ++ later) = returned first + returned later := by
  rw [returned, List.map_append, List.sum_append, ← returned, ← returned]

end Service

namespace Host

/-- A host **serves** calls one after the other: these are its answers, and the last one is the
host afterwards. -/
inductive Serves : Host → List Service → Host → Prop
  | nil (h : Host) : Serves h [] h
  | cons (h : Host) (q : Query) {rest : List Service} {last : Host}
      (later : Serves (h.answer q).2 rest last) : Serves h (⟨q, (h.answer q).1⟩ :: rest) last

namespace Serves

variable {h mid last : Host} {services later : List Service}

theorem append (hfirst : h.Serves services mid) (hlater : mid.Serves later last) :
    h.Serves (services ++ later) last := by
  induction hfirst with
  | nil h => exact hlater
  | cons h q _ ih => exact .cons h q (ih hlater)

theorem conduct (hs : h.Serves services last) : last.conduct = h.conduct := by
  induction hs with
  | nil h => rfl
  | cons h q _ ih => rw [ih, h.conduct_answer q]

end Serves

/-- **The counter of a host** that takes buffers back: what it has lent less what was handed back
to it, as a word. -/
theorem Serves.outstanding {h last : Host} {services : List Service}
    (hs : h.Serves services last) (hleaky : h.conduct.leaky = false) :
    last.outstanding = h.outstanding + .ofNat (Service.lent services).card -
      .ofNat (Service.returned services).card := by
  induction hs with
  | nil h => simp [Service.lent, Service.returned]
  | cons h q later ih =>
    have hone := h.outstanding_answer q
    rw [hleaky, if_neg Bool.false_ne_true] at hone
    rw [ih (by rw [h.conduct_answer q, hleaky]), hone, Service.returned_cons, Service.lent_cons,
      Multiset.card_add, Multiset.card_add, UInt64.ofNat_add, UInt64.ofNat_add]
    -- words form a ring, so it does not matter that the counter may pass zero
    grind

/-- The same without subtraction, so that counters can be summed up. -/
private theorem Serves.outstanding_modEq {h last : Host} {services : List Service}
    (hs : h.Serves services last) (hleaky : h.conduct.leaky = false) :
    last.outstanding.toNat + (Service.returned services).card ≡
      h.outstanding.toNat + (Service.lent services).card [MOD 2 ^ 64] := by
  have hword : last.outstanding + .ofNat (Service.returned services).card =
      h.outstanding + .ofNat (Service.lent services).card := by
    rw [hs.outstanding hleaky, UInt64.sub_add_cancel]
  have hnat := congrArg UInt64.toNat hword
  rwa [UInt64.toNat_add, UInt64.toNat_add, UInt64.toNat_ofNat', UInt64.toNat_ofNat',
    Nat.add_mod_mod, Nat.add_mod_mod] at hnat

end Host

/-! ### Dialogues with a host -/

/-- The call of a line, if it is one, with its answer. -/
def Line.service? : Line → Option Service
  | ⟨.call query, answer⟩ => some ⟨query, answer⟩
  | _ => none

/-- The calls of some lines. -/
def Service.ofLines (lines : List Line) : List Service := lines.filterMap Line.service?

/-- The ledger holds what the calls lent and handed back. -/
private theorem Ledger.enterAll_eq (l : Ledger) (lines : List Line) :
    custody.enterAll l lines =
      ⟨l.lent + Service.lent (Service.ofLines lines),
        l.returned + Service.returned (Service.ofLines lines)⟩ := by
  induction lines generalizing l with
  | nil =>
    change l = ⟨l.lent + 0, l.returned + 0⟩
    rw [add_zero, add_zero]
  | cons line rest ih =>
    have hfirst : custody.enterAll l (line :: rest) =
        custody.enterAll (l.enter line.1 line.2) rest := rfl
    rw [hfirst, ih]
    obtain ⟨a, answer⟩ := line
    cases a with
    | call q =>
      have hlent : Service.lent (Service.ofLines (⟨.call q, answer⟩ :: rest)) =
          q.lent answer + Service.lent (Service.ofLines rest) := Service.lent_cons q answer _
      have hreturned : Service.returned (Service.ofLines (⟨.call q, answer⟩ :: rest)) =
          q.returned + Service.returned (Service.ofLines rest) := Service.returned_cons q answer _
      rw [hlent, hreturned, ← add_assoc, ← add_assoc]
      rfl
    | _ => rfl

/-- A tidy dialogue hands back what it was lent, whoever answers. -/
private theorem Talk.Tidy.lent_eq {d : Talk α} (hd : Tidy d) {σ : Type}
    (answer : σ → (a : Action) → a.Answer × σ) (s : σ) :
    Service.lent (Service.ofLines (d.transcript answer s)) =
      Service.returned (Service.ofLines (d.transcript answer s)) := by
  have hsettled := (hd.balanced answer s).settled
  rw [Ledger.ofTranscript, Ledger.enterAll_eq, Ledger.Settled] at hsettled
  simpa using hsettled

/-- In a dialogue with a station its host serves the calls. -/
private theorem Talk.serves_transcript (d : Talk α) (s : Station) :
    s.monitor.host.Serves (Service.ofLines (d.transcript Station.perform s))
      (d.run Station.perform s).2.monitor.host := by
  induction d generalizing s with
  | done a => exact .nil _
  | ask a next ih =>
    have hlater := ih (s.perform a).1 (s.perform a).2
    cases a with
    | call q => exact .cons s.monitor.host q hlater
    | _ => exact hlater

namespace Talk

/-- Describe the next method of a resolver. -/
def next (r : FrameResolver) : Talk (Option Frame × FrameResolver) :=
  match r.failure, r.pending with
  | none, m :: rest => do
    match ← resolve m with
    | .ok frame => pure (some frame, { r with pending := rest })
    | .error e => pure (none, { pending := rest, failure := some e })
  | _, _ => pure (none, r)

private theorem run_next (s : Station) (r : FrameResolver) :
    (next r).run Station.perform s =
      ((r.next s.monitor.host).result,
        s.talked (r.next s.monitor.host).host (r.next s.monitor.host).log) := by
  obtain ⟨pending, failure⟩ := r
  rcases failure with _ | e
  · rcases pending with _ | ⟨m, rest⟩
    · simp [next, FrameResolver.next, Station.talked]
    · rcases hr : s.monitor.host.resolve m with ⟨e | frame, h, log⟩ <;>
        simp [next, FrameResolver.next, run_resolve, hr]
  · simp [next, FrameResolver.next, Station.talked]

/-- **One more frame** is tidy, be it resolved or not. -/
theorem tidy_next (r : FrameResolver) : Tidy (next r) := by
  rw [next]
  split
  · refine (tidy_resolve _).bind fun resolved => ?_
    rcases resolved with e | frame
    · exact Tidy.pure _
    · exact Tidy.pure _
  · exact Tidy.pure _

end Talk

/-! ### What requests come to -/

namespace Host

/-- One call, as this host answers it. -/
def service (h : Host) (q : Query) : Service := ⟨q, (h.answer q).1⟩

/-- The calls of a dialogue with this host. -/
def services (h : Host) (d : Talk α) : List Service :=
  Service.ofLines (d.transcript Station.perform { monitor := { host := h }, sink := .closure [] })

private theorem serves_service (h : Host) (q : Query) : h.Serves [h.service q] (h.answer q).2 :=
  .cons h q (.nil _)

private theorem serves_capture (h : Host) (thread depth : Nat) :
    h.Serves (h.services (Talk.capture thread depth)) (h.capture thread depth).host := by
  have hserves := Talk.serves_transcript (Talk.capture thread depth)
    { monitor := { host := h }, sink := .closure [] }
  rw [Talk.run_capture] at hserves
  exact hserves

private theorem serves_next (h : Host) (r : FrameResolver) :
    h.Serves (h.services (Talk.next r)) (r.next h).host := by
  have hserves := Talk.serves_transcript (Talk.next r)
    { monitor := { host := h }, sink := .closure [] }
  rw [Talk.run_next] at hserves
  exact hserves

end Host

/-! ### Live buffers -/

/-- An entry of a list is exchanged for another one. -/
private theorem perm_cons_set {l : List α} {n : Nat} {a : α} (h : l[n]? = some a) (b : α) :
    (b :: l).Perm (a :: l.set n b) := by
  obtain ⟨hn, rfl⟩ := List.getElem?_eq_some_iff.mp h
  have hout : l.Perm (l[n] :: l.eraseIdx n) := (List.getElem_cons_eraseIdx_perm hn).symm
  have hin : (b :: l.eraseIdx n).Perm (l.set n b) := (List.set_perm_cons_eraseIdx hn b).symm
  exact ((hout.cons b).trans (.swap _ _ _)).trans (hin.cons _)

/-- An entry of a list is used up. -/
private theorem coe_reduceOption_set_none {l : List (Option α)} {n : Nat} {a : α}
    (h : l[n]? = some (some a)) :
    (↑l.reduceOption : Multiset α) = ↑(l.set n none).reduceOption + {a} := by
  rw [add_comm, Multiset.singleton_add, Multiset.cons_coe, Multiset.coe_eq_coe]
  exact (perm_cons_set h none).filterMap id

namespace Workbench

/-- The number of the host to which a request is put: resolvers and host strings have one of their
own. -/
def addressee (w : Workbench) (index : Nat) : Request → Nat
  | .dropString string => (w.strings[string]?.join.map HostString.owner).getD index
  | .next resolver => (w.resolvers[resolver]?.map OwnedResolver.owner).getD index
  | _ => index

/-- The calls that a request puts to a host. -/
def calls (w : Workbench) (h : Host) : Request → List Service
  | .objectClass object => [h.service (.objectClass object)]
  | .stackTrace thread start most => [h.service (.stackTrace thread start most)]
  | .methodName method => w.methods[method]?.toList.map fun m => h.service (.methodName m)
  | .declaringClass method => w.methods[method]?.toList.map fun m => h.service (.declaringClass m)
  | .classSignature cls => w.classes[cls]?.toList.map fun c => h.service (.classSignature c)
  | .threadInfo thread => [h.service (.threadInfo thread)]
  | .osThreadId thread => [h.service (.osThreadId thread)]
  | .deallocate buffer => w.buffers[buffer]?.join.toList.map fun b => h.service (.deallocate b)
  | .wrap _ => []
  | .dropString string =>
    w.strings[string]?.join.toList.map fun s => h.service (.deallocate s.buffer)
  | .capture thread depth => h.services (Talk.capture thread depth)
  | .resolver _ => []
  | .next resolver =>
    w.resolvers[resolver]?.toList.flatMap fun r => h.services (Talk.next r.resolver)

/-- The buffers that were lent and are still to be given back, be it as they are or inside a host
string. -/
def live (w : Workbench) : Multiset Buffer :=
  ↑w.buffers.reduceOption + ↑(w.strings.reduceOption.map HostString.buffer)

@[simp]
theorem live_setHost (w : Workbench) (index : Nat) (h : Host) : (w.setHost index h).live = w.live :=
  rfl

@[simp]
theorem live_addBuffer (w : Workbench) (b : Buffer) : (w.addBuffer b).2.live = w.live + {b} := by
  rw [live, live, addBuffer, List.reduceOption_append, List.reduceOption_singleton,
    Option.toList_some, ← Multiset.coe_add, Multiset.coe_singleton, add_right_comm]

private theorem live_useBuffer {w : Workbench} {number : Nat} {b : Buffer}
    (h : w.buffers[number]? = some (some b)) : (w.useBuffer number).live + {b} = w.live := by
  simp only [live, useBuffer, coe_reduceOption_set_none h]
  rw [add_right_comm]

@[simp]
theorem live_addString (w : Workbench) (s : HostString) :
    (w.addString s).2.live = w.live + {s.buffer} := by
  rw [live, live, addString, List.reduceOption_append, List.reduceOption_singleton,
    Option.toList_some, List.map_append, List.map_singleton, ← Multiset.coe_add,
    Multiset.coe_singleton, add_assoc]

/-- A host string that is dropped takes its buffer along. -/
private theorem live_dropString {w w' : Workbench} {number : Nat} {s : HostString}
    (h : w.strings[number]? = some (some s)) (hbuffers : w'.buffers = w.buffers)
    (hstrings : w'.strings = w.strings.set number none) : w'.live + {s.buffer} = w.live := by
  have hbuffer : (↑(w.strings.reduceOption.map HostString.buffer) : Multiset Buffer) =
      ↑((w.strings.set number none).reduceOption.map HostString.buffer) + {s.buffer} :=
    congrArg (Multiset.map HostString.buffer) (coe_reduceOption_set_none h) |>.trans
      (Multiset.map_add _ _ _)
  simp only [live, hbuffers, hstrings, hbuffer]
  rw [add_assoc]

/-! ### One request -/

/-- The calls of a request to the host with the given number. -/
def served (w : Workbench) (index : Nat) (request : Request) : List Service :=
  w.hosts[w.addressee index request]?.toList.flatMap fun h => w.calls h request

/-- From one workbench to another a host **serves** calls. The other hosts are left alone, and what
the calls lend and take back comes to the live buffers and goes from them. -/
structure Serves (w : Workbench) (owner : Nat) (services : List Service) (w' : Workbench) :
    Prop where
  hosts : ∃ h h', w.hosts[owner]? = some h ∧ h.Serves services h' ∧
    w'.hosts = w.hosts.set owner h'
  live : w'.live + Service.returned services = w.live + Service.lent services

private theorem served_eq {w : Workbench} {index : Nat} {request : Request} {h : Host}
    (hh : w.hosts[w.addressee index request]? = some h) :
    w.served index request = w.calls h request := by
  rw [served, hh, Option.toList_some, List.flatMap_singleton]

/-- One call. -/
private theorem serves_one {w w' : Workbench} {owner : Nat} {h h' : Host} {q : Query}
    {answer : q.Answer} (hh : w.hosts[owner]? = some h) (hanswer : h.answer q = (answer, h'))
    (hhosts : w'.hosts = w.hosts.set owner h')
    (hlive : w'.live + q.returned = w.live + q.lent answer) :
    w.Serves owner [h.service q] w' := by
  have hserves := h.serves_service q
  rw [hanswer] at hserves
  refine ⟨⟨h, h', hh, hserves, hhosts⟩, ?_⟩
  have hlent : Service.lent [h.service q] = q.lent answer := by
    rw [Host.service, Service.lent_cons, hanswer]
    exact add_zero _
  have hreturned : Service.returned [h.service q] = q.returned := add_zero _
  rw [hlent, hreturned, hlive]

/-- No call at all. -/
private theorem serves_none {w w' : Workbench} {owner : Nat} {h : Host}
    (hh : w.hosts[owner]? = some h) (hhosts : w'.hosts = w.hosts) (hlive : w'.live = w.live) :
    w.Serves owner [] w' := by
  obtain ⟨hlt, rfl⟩ := List.getElem?_eq_some_iff.mp hh
  refine ⟨⟨_, _, hh, .nil _, ?_⟩, congrArg (· + 0) hlive⟩
  rw [hhosts, List.set_getElem_self]

/-- **One request.** The calls that it comes to are served by the host to which it is put. -/
theorem serves_step {w w' : Workbench} {index : Nat} {request : Request} {reply : Reply}
    (hstep : w.step index request = some (reply, w')) :
    w.Serves (w.addressee index request) (w.served index request) w' := by
  obtain ⟨h, hh, hstep⟩ := Option.bind_eq_some_iff.mp hstep
  cases request with
  | objectClass object =>
    dsimp only at hstep
    rw [served_eq hh]
    rcases ha : h.objectClass object with ⟨e | name, h'⟩ <;> rw [ha] at hstep <;> cases hstep <;>
      exact serves_one (q := .objectClass object) hh ha rfl rfl
  | stackTrace thread start most =>
    dsimp only at hstep
    rw [served_eq hh]
    rcases ha : h.stackTrace thread start most with ⟨e | ms, h'⟩ <;> rw [ha] at hstep <;>
      cases hstep <;> exact serves_one (q := .stackTrace thread start most) hh ha rfl rfl
  | methodName method =>
    obtain ⟨m, hm, hstep⟩ := Option.bind_eq_some_iff.mp hstep
    rw [served_eq hh, calls, hm]
    rcases ha : h.methodName m with ⟨e | ⟨name, signature⟩, h'⟩ <;> rw [ha] at hstep <;>
      cases hstep
    · exact serves_one (q := .methodName m) hh ha rfl rfl
    · have hname := live_addBuffer (w.setHost index h') name
      have hsignature := live_addBuffer ((w.setHost index h').addBuffer name).2 signature
      rw [hname, live_setHost, add_assoc] at hsignature
      exact serves_one (q := .methodName m) hh ha rfl ((add_zero _).trans hsignature)
  | declaringClass method =>
    obtain ⟨m, hm, hstep⟩ := Option.bind_eq_some_iff.mp hstep
    rw [served_eq hh, calls, hm]
    rcases ha : h.declaringClass m with ⟨e | c, h'⟩ <;> rw [ha] at hstep <;> cases hstep <;>
      exact serves_one (q := .declaringClass m) hh ha rfl rfl
  | classSignature cls =>
    obtain ⟨c, hc, hstep⟩ := Option.bind_eq_some_iff.mp hstep
    rw [served_eq hh, calls, hc]
    rcases ha : h.classSignature c with ⟨e | b, h'⟩ <;> rw [ha] at hstep <;> cases hstep
    · exact serves_one (q := .classSignature c) hh ha rfl rfl
    · exact serves_one (q := .classSignature c) hh ha rfl
        ((add_zero _).trans (live_addBuffer (w.setHost index h') b))
  | threadInfo thread =>
    dsimp only at hstep
    rw [served_eq hh]
    rcases ha : h.threadInfo thread with ⟨e | b, h'⟩ <;> rw [ha] at hstep <;> cases hstep
    · exact serves_one (q := .threadInfo thread) hh ha rfl rfl
    · exact serves_one (q := .threadInfo thread) hh ha rfl
        ((add_zero _).trans (live_addBuffer (w.setHost index h') b))
  | osThreadId thread =>
    dsimp only at hstep
    rw [served_eq hh]
    rcases ha : h.osThreadId thread with ⟨e | id, h'⟩ <;> rw [ha] at hstep <;> cases hstep <;>
      exact serves_one (q := .osThreadId thread) hh ha rfl rfl
  | deallocate buffer =>
    obtain ⟨entry, hentry, hused⟩ := Option.bind_eq_some_iff.mp hstep
    obtain ⟨b, rfl, hstep⟩ := Option.bind_eq_some_iff.mp hused
    rw [served_eq hh, calls, hentry]
    rcases ha : h.deallocate b with ⟨e | ⟨⟩, h'⟩ <;> rw [ha] at hstep <;> cases hstep <;>
      exact serves_one (q := .deallocate b) hh ha rfl
        ((live_useBuffer (w := w.setHost index h') hentry).trans (add_zero _).symm)
  | wrap buffer =>
    obtain ⟨entry, hentry, hused⟩ := Option.bind_eq_some_iff.mp hstep
    obtain ⟨b, rfl, hstep⟩ := Option.bind_eq_some_iff.mp hused
    cases hstep
    rw [served_eq hh]
    refine serves_none hh rfl ?_
    -- the buffer is still there, inside the host string
    exact (live_addString (w.useBuffer buffer) ⟨index, b⟩).trans (live_useBuffer hentry)
  | dropString string =>
    obtain ⟨entry, hentry, hused⟩ := Option.bind_eq_some_iff.mp hstep
    obtain ⟨s, rfl, hstep⟩ := Option.bind_eq_some_iff.mp hused
    obtain ⟨owner, howner, hstep⟩ := Option.bind_eq_some_iff.mp hstep
    have haddressee : w.addressee index (.dropString string) = s.owner := by
      rw [addressee, hentry]
      rfl
    rw [served_eq (haddressee ▸ howner), calls, hentry, haddressee]
    cases hstep
    have hrelease : (owner.release s.buffer).2 = (owner.deallocate s.buffer).2 := by
      rw [Host.release]
      split <;> simp_all
    refine serves_one (q := .deallocate s.buffer) howner rfl ?_ ?_
    · exact congrArg (w.hosts.set s.owner) hrelease
    · exact Eq.trans (live_dropString hentry rfl rfl) (add_zero _).symm
  | capture thread depth =>
    cases hstep
    rw [served_eq hh]
    exact ⟨⟨h, _, hh, h.serves_capture thread depth, rfl⟩,
      congrArg (w.live + ·) ((Talk.tidy_capture thread depth).lent_eq _ _).symm⟩
  | resolver methods =>
    obtain ⟨ms, -, hstep⟩ := Option.bind_eq_some_iff.mp hstep
    cases hstep
    rw [served_eq hh]
    exact serves_none hh rfl rfl
  | next number =>
    obtain ⟨r, hr, hstep⟩ := Option.bind_eq_some_iff.mp hstep
    obtain ⟨owner, howner, hstep⟩ := Option.bind_eq_some_iff.mp hstep
    have haddressee : w.addressee index (.next number) = r.owner := by
      rw [addressee, hr]
      rfl
    rw [served_eq (haddressee ▸ howner), calls, hr, haddressee, Option.toList_some,
      List.flatMap_cons, List.flatMap_nil, List.append_nil]
    cases hstep
    exact ⟨⟨owner, _, howner, owner.serves_next r.resolver, rfl⟩,
      congrArg (w.live + ·) ((Talk.tidy_next r.resolver).lent_eq _ _).symm⟩

/-! ### Runs -/

/-- Hosts serve calls, now this one and now that one; the record has the number of the host beside
each call. -/
inductive Runs : Workbench → List (Nat × Service) → Workbench → Prop
  | nil (w : Workbench) : Runs w [] w
  | cons {w w' last : Workbench} {owner : Nat} {services : List Service}
      {record : List (Nat × Service)} (first : w.Serves owner services w')
      (later : Runs w' record last) : Runs w (services.map (owner, ·) ++ record) last

/-- Put requests to hosts, one after the other, each to the host with the given number. Those that
speak of something that does not exist or has been used up are passed over. -/
def run (w : Workbench) : List (Nat × Request) → Workbench
  | [] => w
  | (index, request) :: rest =>
    match w.step index request with
    | none => w.run rest
    | some (_, w') => w'.run rest

/-- The calls that hosts serve on such requests. -/
def record (w : Workbench) : List (Nat × Request) → List (Nat × Service)
  | [] => []
  | (index, request) :: rest =>
    match w.step index request with
    | none => w.record rest
    | some (_, w') =>
      (w.served index request).map (w.addressee index request, ·) ++ w'.record rest

private theorem runs_run (w : Workbench) (requests : List (Nat × Request)) :
    w.Runs (w.record requests) (w.run requests) := by
  induction requests generalizing w with
  | nil => exact .nil w
  | cons first rest ih =>
    obtain ⟨index, request⟩ := first
    rw [run, record]
    split
    · exact ih w
    · next hstep => exact .cons (serves_step hstep) (ih _)

/-- The calls that one host has served. -/
def servedBy (i : Nat) (record : List (Nat × Service)) : List Service :=
  (record.filter fun entry => entry.1 == i).map Prod.snd

private theorem servedBy_append (i owner : Nat) (services : List Service)
    (record : List (Nat × Service)) :
    servedBy i (services.map (owner, ·) ++ record) =
      (if owner = i then services else []) ++ servedBy i record := by
  by_cases howner : owner = i
  · simp [servedBy, howner, List.filter_map, Function.comp_def]
  · simp [servedBy, howner, List.filter_map, Function.comp_def]

/-- The sum of all counters. -/
def total (w : Workbench) : Nat :=
  (w.hosts.map fun h => h.outstanding.toNat).sum

/-- Every host takes buffers back. -/
def TakesBack (w : Workbench) : Prop :=
  ∀ h ∈ w.hosts, h.conduct.leaky = false

section Step

variable {w w' : Workbench} {owner : Nat} {services : List Service}

private theorem Serves.takesBack (hs : w.Serves owner services w') (hw : w.TakesBack) :
    w'.TakesBack := by
  obtain ⟨h, h', hh, hserves, hhosts⟩ := hs.hosts
  intro g hg
  rw [hhosts] at hg
  rcases List.mem_or_eq_of_mem_set hg with hg | rfl
  · exact hw g hg
  · rw [hserves.conduct]
    exact hw h (List.mem_of_getElem? hh)

/-- What one host does to the sum of all counters. -/
theorem Serves.total (hs : w.Serves owner services w') (hw : w.TakesBack) :
    w'.total + (Service.returned services).card ≡
      w.total + (Service.lent services).card [MOD 2 ^ 64] := by
  obtain ⟨h, h', hh, hserves, hhosts⟩ := hs.hosts
  have hone := hserves.outstanding_modEq (hw h (List.mem_of_getElem? hh))
  have hsum : h'.outstanding.toNat + w.total = h.outstanding.toNat + w'.total := by
    unfold Workbench.total
    rw [hhosts]
    exact ((perm_cons_set hh h').map fun h => h.outstanding.toNat).sum_eq
  refine Nat.ModEq.add_left_cancel' h.outstanding.toNat ?_
  calc h.outstanding.toNat + (w'.total + (Service.returned services).card)
      = w.total + (h'.outstanding.toNat + (Service.returned services).card) := by omega
    _ ≡ w.total + (h.outstanding.toNat + (Service.lent services).card) [MOD 2 ^ 64] :=
      hone.add_left _
    _ = h.outstanding.toNat + (w.total + (Service.lent services).card) := by omega

/-- **Counters stay** where as much is handed back as was lent. -/
theorem Serves.counters (hs : w.Serves owner services w') (hw : w.TakesBack)
    (hlent : Service.lent services = Service.returned services) :
    w'.hosts.map Host.outstanding = w.hosts.map Host.outstanding := by
  obtain ⟨h, h', hh, hserves, hhosts⟩ := hs.hosts
  have hsame : h'.outstanding = h.outstanding := by
    rw [hserves.outstanding (hw h (List.mem_of_getElem? hh)), hlent, UInt64.add_sub_cancel]
  obtain ⟨hlt, rfl⟩ := List.getElem?_eq_some_iff.mp hh
  rw [hhosts, List.map_set, hsame,
    ← List.getElem_map Host.outstanding (h := by rwa [List.length_map]), List.set_getElem_self]

end Step

namespace Runs

variable {w last : Workbench} {record : List (Nat × Service)}

private theorem takesBack (hr : w.Runs record last) (hw : w.TakesBack) : last.TakesBack := by
  induction hr with
  | nil w => exact hw
  | cons first _ ih => exact ih (first.takesBack hw)

private theorem calls_cons (owner : Nat) (services : List Service) (record : List (Nat × Service)) :
    (services.map (owner, ·) ++ record).map Prod.snd = services ++ record.map Prod.snd := by
  simp [Function.comp_def]

/-- **Buffers over a run**: those that are live at the end were live at the start or have been lent
since, and those that were handed back are no longer among them. -/
theorem live (hr : w.Runs record last) :
    last.live + Service.returned (record.map Prod.snd) =
      w.live + Service.lent (record.map Prod.snd) := by
  induction hr with
  | nil w => rfl
  | @cons w w' last owner services record first _ ih =>
    rw [calls_cons, Service.returned_append, Service.lent_append]
    calc last.live + (Service.returned services + Service.returned (record.map Prod.snd))
        = last.live + Service.returned (record.map Prod.snd) + Service.returned services := by
          rw [add_comm (Service.returned services), add_assoc]
      _ = w'.live + Service.returned services + Service.lent (record.map Prod.snd) := by
          rw [ih, add_right_comm]
      _ = w.live + (Service.lent services + Service.lent (record.map Prod.snd)) := by
          rw [first.live, add_assoc]

private theorem length_hosts (hr : w.Runs record last) : last.hosts.length = w.hosts.length := by
  induction hr with
  | nil w => rfl
  | cons first _ ih =>
    obtain ⟨_, _, -, -, hhosts⟩ := first.hosts
    rw [ih, hhosts, List.length_set]

/-- **One host over a run**: it has served its calls in the record and no others. -/
theorem host (hr : w.Runs record last) {i : Nat} {h : Host} (hh : w.hosts[i]? = some h) :
    ∃ h', last.hosts[i]? = some h' ∧ h.Serves (servedBy i record) h' := by
  induction hr generalizing h with
  | nil w => exact ⟨h, hh, .nil h⟩
  | @cons w w' last owner services record first _ ih =>
    obtain ⟨g, g', hg, hserves, hhosts⟩ := first.hosts
    rw [servedBy_append]
    by_cases howner : owner = i
    · subst howner
      obtain ⟨hlt, -⟩ := List.getElem?_eq_some_iff.mp hg
      obtain rfl := Option.some.inj (hg.symm.trans hh)
      obtain ⟨h', hh', hlater⟩ := ih (by rw [hhosts, List.getElem?_set_self hlt])
      rw [if_pos rfl]
      exact ⟨h', hh', hserves.append hlater⟩
    · obtain ⟨h', hh', hlater⟩ := ih (by rw [hhosts, List.getElem?_set_ne howner, hh])
      rw [if_neg howner]
      exact ⟨h', hh', hlater⟩

/-- **All counters over a run.** -/
theorem total (hr : w.Runs record last) (hw : w.TakesBack) :
    last.total + (Service.returned (record.map Prod.snd)).card ≡
      w.total + (Service.lent (record.map Prod.snd)).card [MOD 2 ^ 64] := by
  induction hr with
  | nil w => rfl
  | @cons w w' last owner services record first _ ih =>
    rw [calls_cons, Service.returned_append, Service.lent_append, Multiset.card_add,
      Multiset.card_add]
    have hboth := (first.total hw).add (ih (first.takesBack hw))
    refine Nat.ModEq.add_left_cancel' w'.total ?_
    calc _ = _ := by omega
      _ ≡ _ [MOD 2 ^ 64] := hboth
      _ = _ := by omega

end Runs

/-- Scripted hosts, nothing given out yet. -/
def ofScenarios (scenarios : List Scenario) : Workbench :=
  { hosts := scenarios.map fun s => { scenario := s } }

private theorem takesBack_ofScenarios (scenarios : List Scenario) :
    (ofScenarios scenarios).TakesBack := by
  intro h hh
  obtain ⟨s, -, rfl⟩ := List.mem_map.mp hh
  rfl

private theorem total_ofScenarios (scenarios : List Scenario) :
    (ofScenarios scenarios).total = 0 := by
  simp [total, ofScenarios, Function.comp_def]

/-- Whether there is something to ask or not, as much is handed back as was lent. -/
private theorem lent_flatMap_toList {o : Option α} {f : α → List Service}
    (hf : ∀ a, Service.lent (f a) = Service.returned (f a)) :
    Service.lent (o.toList.flatMap f) = Service.returned (o.toList.flatMap f) := by
  cases o with
  | none => rfl
  | some a =>
    rw [Option.toList_some, List.flatMap_cons, List.flatMap_nil, List.append_nil]
    exact hf a

private theorem lent_capture (w : Workbench) (index thread depth : Nat) :
    Service.lent (w.served index (.capture thread depth)) =
      Service.returned (w.served index (.capture thread depth)) :=
  lent_flatMap_toList fun _ => (Talk.tidy_capture thread depth).lent_eq _ _

private theorem lent_next (w : Workbench) (index number : Nat) :
    Service.lent (w.served index (.next number)) =
      Service.returned (w.served index (.next number)) :=
  lent_flatMap_toList fun _ => lent_flatMap_toList fun r =>
    (Talk.tidy_next r.resolver).lent_eq _ _

/-- **Buffers are accounted for**, whatever is asked of scripted hosts and wherever the things that
they give out are used. -/
theorem buffers_accounted (scenarios : List Scenario) (requests : List (Nat × Request)) :
    let w := (ofScenarios scenarios).run requests
    let record := (ofScenarios scenarios).record requests
    -- a buffer is live if it was lent and has not been handed back, and the counters sum up to
    -- the number of live buffers
    (w.live + Service.returned (record.map Prod.snd) = Service.lent (record.map Prod.snd) ∧
      (w.hosts.map fun h => h.outstanding.toNat).sum ≡ w.live.card [MOD 2 ^ 64]) ∧
    -- each host has served its own calls, and its counter is what it lent less what it got back
    (w.hosts.length = scenarios.length ∧
      ∀ i s, scenarios[i]? = some s → ∃ h, w.hosts[i]? = some h ∧
        Host.Serves { scenario := s } (servedBy i record) h ∧
        h.outstanding = .ofNat (Service.lent (servedBy i record)).card -
          .ofNat (Service.returned (servedBy i record)).card) ∧
    -- captures and resolvers leave all counters alone, whatever they reply
    ∀ index request reply w', w.step index request = some (reply, w') →
      ((∃ thread depth, request = .capture thread depth) ∨ ∃ number, request = .next number) →
      w'.hosts.map Host.outstanding = w.hosts.map Host.outstanding := by
  intro w record
  have hstart := takesBack_ofScenarios scenarios
  have hruns : (ofScenarios scenarios).Runs record w := runs_run _ requests
  have hlive : w.live + Service.returned (record.map Prod.snd) =
      Service.lent (record.map Prod.snd) := by
    rw [hruns.live]
    exact zero_add _
  refine ⟨⟨hlive, ?_⟩, ⟨?_, ?_⟩, ?_⟩
  · have htotal := hruns.total hstart
    rw [total_ofScenarios, zero_add, ← hlive, Multiset.card_add] at htotal
    exact Nat.ModEq.add_right_cancel' _ htotal
  · rw [hruns.length_hosts, ofScenarios, List.length_map]
  · intro i s hs
    have hfirst : (ofScenarios scenarios).hosts[i]? = some { scenario := s } := by
      rw [ofScenarios, List.getElem?_map, hs, Option.map_some]
    obtain ⟨h, hh, hserves⟩ := hruns.host hfirst
    refine ⟨h, hh, hserves, ?_⟩
    rw [hserves.outstanding rfl, UInt64.zero_add]
  · intro index request reply w' hstep hrequest
    refine (serves_step hstep).counters (hruns.takesBack hstart) ?_
    rcases hrequest with ⟨thread, depth, rfl⟩ | ⟨number, rfl⟩
    · exact w.lent_capture index thread depth
    · exact w.lent_next index number

/-- Three names are lent by the first of two hosts. One is wrapped for the second host and dropped,
one is handed to it as it is, and the counter of the second host passes zero. -/
theorem buffers_accounted_two_hosts :
    let scenario : Scenario := { threads := [{ name := "main" }] }
    let requests : List (Nat × Request) :=
      [(0, .threadInfo 0), (0, .threadInfo 0), (0, .threadInfo 0), (1, .wrap 1),
        (0, .dropString 0), (1, .deallocate 2), (1, .deallocate 2), (1, .capture 0 4)]
    let w := (ofScenarios [scenario, scenario]).run requests
    w.hosts.map Host.outstanding = [3, 18446744073709551614] ∧ w.live = {⟨"main"⟩} ∧
      (w.hosts.map fun h => h.outstanding.toNat).sum ≡ 1 [MOD 2 ^ 64] := by
  intro scenario requests w
  have hlive : w.live = {⟨"main"⟩} := by decide
  have haccounted := (buffers_accounted [scenario, scenario] requests).1.2
  refine ⟨by decide, hlive, haccounted.trans ?_⟩
  rw [show ((ofScenarios [scenario, scenario]).run requests).live = _ from hlive,
    Multiset.card_singleton]

end Workbench

end Contention
