import Contention.Proofs.Handles

/-!
# Failures are logged once

A call to the host that fails is told in one line of the log, and a line of the log tells of one
such call. Most failures also raise a counter: the one of unresolved objects or the one of soft
failures. The two records of what went wrong do not quite agree, since a buffer that the host does
not take back is logged but not counted, and a stack without frames is counted but not logged.

Log lines and counters are behind their failures for a while. That a frame cannot be described is
logged when the frames before it are known, and counted later still, when the stack is put into the
record. `Noted` says of some lines which failures are still to be logged and which counters are
still to be raised; it is closed under going on (`Noted.append`), and by `Noted.log` and
`Noted.raise` the debts are paid. Along every path of an event, whatever the host answers, nothing
is owed at the end (`Talk.noted_observe`).

`Station.Wrote` ties this to stations whose sink has nothing to say. The main statement is
`failures_logged_once`.
-/

namespace Contention

open Dialogue
open Log (Entry)

/-! ### Failures -/

/-- What a call to the host is made for. -/
inductive Purpose where
  | objectType
  | stack
  | frame
  | threadName
  | threadId
  | release
deriving DecidableEq, Repr

/-- A call that failed: what it was made for, and what the host said. -/
structure Failure where
  purpose : Purpose
  cause : HostError
deriving DecidableEq, Repr

/-- The counter that a failure raises. That a buffer is not taken back is not counted. -/
def Purpose.counter? : Purpose → Option Counter
  | .objectType => some .unresolvedObjects
  | .release => none
  | _ => some .softFailures

namespace Query

/-- What a call is made for. A frame takes three calls. -/
def purpose : Query → Purpose
  | .objectClass _ => .objectType
  | .stackTrace .. => .stack
  | .methodName _ => .frame
  | .declaringClass _ => .frame
  | .classSignature _ => .frame
  | .threadInfo _ => .threadName
  | .osThreadId _ => .threadId
  | .deallocate _ => .release

/-- The failure of a call, if it failed. -/
def failed? (q : Query) (answer : q.Answer) : Option Failure :=
  (q.error? answer).map (Failure.mk q.purpose)

/-- Whether the answer is a stack without frames. -/
def noFrames : (q : Query) → q.Answer → Bool
  | .stackTrace .., .ok methods => methods.isEmpty
  | _, _ => false

/-- The counter that an answer is to raise: the one of its failure, and for a stack without frames
the one of soft failures. -/
def charge? (q : Query) (answer : q.Answer) : Option Counter :=
  if q.noFrames answer then some .softFailures else (q.failed? answer).bind (·.purpose.counter?)

end Query

/-- The failure that a line of the log tells of. -/
def Log.Entry.failure? : Entry → Option Failure
  | .releaseFailed cause => some ⟨.release, cause⟩
  | .objectUnresolved cause => some ⟨.objectType, cause⟩
  | .threadInfoUnavailable cause => some ⟨.threadName, cause⟩
  | .threadIdUnavailable cause => some ⟨.threadId, cause⟩
  | .stackUnavailable cause => some ⟨.stack, cause⟩
  | .stackTruncated cause _ => some ⟨.frame, cause⟩
  | _ => none

theorem Log.Entry.level_of_failure? {e : Entry} {f : Failure} (h : e.failure? = some f) :
    e.level = .debug := by
  cases e <;> first | rfl | cases h

/-- Whether a counter is one of failures. -/
def Counter.ofFailures : Counter → Bool
  | .unresolvedObjects => true
  | .softFailures => true
  | _ => false

namespace Line

/-- The failure of a call. -/
def failed? : Line → Option Failure
  | ⟨.call query, answer⟩ => query.failed? answer
  | _ => none

/-- The counter that the answer to a call is to raise. -/
def charge? : Line → Option Counter
  | ⟨.call query, answer⟩ => query.charge? answer
  | _ => none

/-- Whether this is a call that is answered by a stack without frames. -/
def noFrames : Line → Bool
  | ⟨.call query, answer⟩ => query.noFrames answer
  | _ => false

/-- Whether this is a call that hands a buffer back. -/
def handsBack : Line → Bool
  | ⟨.call (.deallocate _), _⟩ => true
  | _ => false

/-- The line that is written to the log. -/
def entry? : Line → Option Entry
  | ⟨.log entry, _⟩ => some entry
  | _ => none

/-- The counter of failures that is raised. -/
def raised? (line : Line) : Option Counter := line.counter?.filter Counter.ofFailures

private theorem filterMap_singleton (f : Line → Option γ) (line : Line) :
    [line].filterMap f = (f line).toList := by
  cases hf : f line <;> simp [hf]

/-- Nothing to do with failures: no call, no line of the log and no counter of failures. -/
def Plain (line : Line) : Prop :=
  line.failed? = none ∧ line.charge? = none ∧ line.entry? = none ∧ line.raised? = none

end Line

/-- The failures among some lines, in their order. -/
def failures (lines : List Line) : List Failure := lines.filterMap Line.failed?

/-- How many of the failures raise this counter. -/
def chargedTo (c : Counter) (lines : List Line) : Nat :=
  (failures lines).countP (·.purpose.counter? = some c)

/-- How often a buffer was not taken back. -/
def refusals (lines : List Line) : Nat := (failures lines).countP (·.purpose = .release)

private theorem refusals_append (lines later : List Line) :
    refusals (lines ++ later) = refusals lines + refusals later := by
  rw [refusals, failures, List.filterMap_append, List.countP_append]
  rfl

/-- How often a stack came without frames. -/
def emptyStacks (lines : List Line) : Nat := lines.countP Line.noFrames

/-! ### Lines and what they owe -/

/-- The lines have failures that they do not log, and failures by which they do not raise a counter;
all others are logged and counted. At most `most` counters of failures are raised. -/
structure Noted (lines : List Line) (unlogged : List Failure) (uncounted : List Counter)
    (most : Nat) : Prop where
  logged : ((lines.filterMap Line.entry?).map Entry.failure? ++ unlogged.map some).Perm
    ((failures lines).map some)
  counted : (lines.filterMap Line.raised? ++ uncounted).Perm (lines.filterMap Line.charge?)
  few : (lines.filterMap Line.raised?).length ≤ most

/-- What is done and what is due make up the whole; so they do if two wholes are put together. -/
private theorem perm_done_due {done done' due due' whole whole' : List γ}
    (h : (done ++ due).Perm whole) (h' : (done' ++ due').Perm whole') :
    (done ++ done' ++ (due ++ due')).Perm (whole ++ whole') := by
  have hswap : (done ++ done' ++ (due ++ due')).Perm (done ++ due ++ (done' ++ due')) := by
    rw [List.append_assoc, List.append_assoc]
    exact (List.perm_append_comm_assoc done' due due').append_left done
  exact hswap.trans (h.append h')

namespace Noted

variable {lines later : List Line} {unlogged unlogged' : List Failure}
  {uncounted uncounted' : List Counter} {most most' : Nat}

theorem nil : Noted [] [] [] 0 := ⟨.nil, .nil, le_rfl⟩

private theorem mono (h : Noted lines unlogged uncounted most) (hle : most ≤ most') :
    Noted lines unlogged uncounted most' := ⟨h.logged, h.counted, h.few.trans hle⟩

/-- Debts add up. -/
theorem append (h : Noted lines unlogged uncounted most)
    (h' : Noted later unlogged' uncounted' most') :
    Noted (lines ++ later) (unlogged ++ unlogged') (uncounted ++ uncounted') (most + most') where
  logged := by
    rw [failures, List.filterMap_append, List.filterMap_append, List.map_append, List.map_append,
      List.map_append]
    exact perm_done_due h.logged h'.logged
  counted := by
    rw [List.filterMap_append, List.filterMap_append]
    exact perm_done_due h.counted h'.counted
  few := by
    rw [List.filterMap_append, List.length_append]
    exact Nat.add_le_add h.few h'.few

/-- A call owes what its answer says. -/
theorem call (q : Query) (answer : q.Answer) :
    Noted [⟨.call q, answer⟩] (q.failed? answer).toList (q.charge? answer).toList 0 where
  logged := by
    cases hf : q.failed? answer <;> simp [failures, Line.failed?, Line.entry?, hf]
  counted := by
    cases hc : q.charge? answer <;> simp [Line.charge?, Line.raised?, Line.counter?, hc]
  few := by simp [Line.raised?, Line.counter?]

/-- **Debts are paid** by a line that is no call: it logs what was not logged so far, or it raises
what was not raised so far, or it does neither. -/
theorem pay {line : Line} (told : List Failure) (raised : List Counter)
    (h : Noted lines (told ++ unlogged) (raised ++ uncounted) most)
    (hfailed : line.failed? = none) (hcharge : line.charge? = none)
    (hentry : line.entry?.toList.map Entry.failure? = told.map some)
    (hraised : line.raised?.toList = raised) :
    Noted (lines ++ [line]) unlogged uncounted (most + raised.length) := by
  have hlast {γ : Type} (f : Line → Option γ) :
      (lines ++ [line]).filterMap f = lines.filterMap f ++ (f line).toList := by
    rw [List.filterMap_append, Line.filterMap_singleton]
  subst hraised
  constructor
  · rw [failures, hlast, hlast, hfailed, List.map_append, hentry, List.append_assoc,
      ← List.map_append, Option.toList_none, List.append_nil]
    exact h.logged
  · rw [hlast, hlast, hcharge, List.append_assoc, Option.toList_none, List.append_nil]
    exact h.counted
  · rw [hlast, List.length_append]
    exact Nat.add_le_add_right h.few _

/-- A line that has nothing to do with failures. -/
theorem plain {line : Line} (h : Noted lines unlogged uncounted most) (hline : line.Plain) :
    Noted (lines ++ [line]) unlogged uncounted most := by
  obtain ⟨hfailed, hcharge, hentry, hraised⟩ := hline
  exact pay [] [] h hfailed hcharge (by rw [hentry]; rfl) (by rw [hraised]; rfl)

theorem log {e : Entry} {f : Failure} (h : Noted lines (f :: unlogged) uncounted most)
    (he : e.failure? = some f) : Noted (lines ++ [⟨.log e, ()⟩]) unlogged uncounted most :=
  pay [f] [] h rfl rfl (congrArg (fun told => [told]) he) rfl

theorem raise {c : Counter} (h : Noted lines unlogged (c :: uncounted) most)
    (hc : c.ofFailures = true) : Noted (lines ++ [⟨.bump c, ()⟩]) unlogged uncounted (most + 1) :=
  pay [] [c] h rfl rfl rfl (congrArg Option.toList (Option.filter_some_pos hc))

end Noted

/-! ### The dialogues -/

namespace Talk

variable {lines : List Line}

/-- A dialogue of one action. -/
private theorem path_request {a : Action} {answer : a.Answer}
    (h : Path (request a : Talk a.Answer) lines answer) : lines = [⟨a, answer⟩] := by
  cases h with
  | ask answer h =>
    cases h
    rfl

/-- A buffer that is not taken back is logged, and not counted. -/
private theorem noted_release {b : Buffer} (h : Path (release b) lines ()) :
    Noted lines [] [] 0 := by
  obtain ⟨answer, rest, rfl, hrest⟩ := path_request_bind.mp h
  rcases answer with e | ⟨⟩
  · obtain rfl := path_request hrest
    exact (Noted.call (.deallocate b) (.error e)).log rfl
  · obtain ⟨rfl, -⟩ := path_pure.mp hrest
    exact Noted.call (.deallocate b) (.ok ())

private theorem noted_releaseAll {bs : List Buffer} (h : Path (releaseAll bs) lines ()) :
    Noted lines [] [] 0 := by
  induction bs generalizing lines with
  | nil =>
    obtain ⟨rfl, -⟩ := path_pure.mp h
    exact .nil
  | cons b rest ih =>
    obtain ⟨first, ⟨⟩, later, rfl, hfirst, hlater⟩ := h.of_bind
    exact (noted_release hfirst).append (ih hlater)

private theorem noted_finish {bs : List Buffer} {a result : α}
    (h : Path (finish bs a) lines result) :
    Noted lines [] [] 0 ∧ result = a := by
  obtain ⟨first, ⟨⟩, later, rfl, hfirst, hlater⟩ := h.of_bind
  obtain ⟨rfl, rfl⟩ := path_pure.mp hlater
  exact ⟨(noted_releaseAll hfirst).append .nil, rfl⟩

/-- What a frame owes: the failure that ended it, and a soft failure for it. -/
def FrameOwes (lines : List Line) (failure : Option HostError) : Prop :=
  Noted lines (failure.toList.map (Failure.mk .frame)) (failure.toList.map fun _ => .softFailures) 0

/-- **One frame.** Whichever of its three calls fails, the failure is left to be logged. -/
theorem noted_resolve {m : Method} {result : Except HostError Frame}
    (h : Path (resolve m) lines result) : FrameOwes lines (failure? result) := by
  obtain ⟨answer, _, rfl, hnamed⟩ := path_request_bind.mp h
  have hname := Noted.call (.methodName m) answer
  rcases answer with e | ⟨name, signature⟩
  · obtain ⟨rfl, rfl⟩ := path_pure.mp hnamed
    exact hname
  obtain ⟨answer, _, rfl, hdeclared⟩ := path_request_bind.mp hnamed
  have hclass := Noted.call (.declaringClass m) answer
  rcases answer with e | c
  · obtain ⟨hfinish, rfl⟩ := noted_finish hdeclared
    exact hname.append (hclass.append hfinish)
  obtain ⟨answer, _, rfl, hsigned⟩ := path_request_bind.mp hdeclared
  have hsignature := Noted.call (.classSignature c) answer
  rcases answer with e | cls
  · obtain ⟨hfinish, rfl⟩ := noted_finish hsigned
    exact hname.append (hclass.append (hsignature.append hfinish))
  · obtain ⟨hfinish, rfl⟩ := noted_finish hsigned
    exact hname.append (hclass.append (hsignature.append hfinish))

/-- Frames owe what the frame owes that ended them; if none did, they are all there. -/
private theorem noted_resolveAll {ms : List Method} {result : List Frame × Option HostError}
    (h : Path (resolveAll ms) lines result) :
    FrameOwes lines result.2 ∧ (result.2 = none → result.1.length = ms.length) := by
  induction ms generalizing lines result with
  | nil =>
    obtain ⟨rfl, rfl⟩ := path_pure.mp h
    exact ⟨.nil, fun _ => rfl⟩
  | cons m rest ih =>
    obtain ⟨first, resolved, later, rfl, hfirst, hlater⟩ := h.of_bind
    have hframe := noted_resolve hfirst
    rcases resolved with e | frame
    · obtain ⟨rfl, rfl⟩ := path_pure.mp hlater
      rw [List.append_nil]
      exact ⟨hframe, nofun⟩
    · obtain ⟨next, others, last, rfl, hnext, hlast⟩ := hlater.of_bind
      obtain ⟨rfl, rfl⟩ := path_pure.mp hlast
      obtain ⟨hothers, hlength⟩ := ih hnext
      rw [List.append_nil]
      refine ⟨?_, fun hnone => congrArg (· + 1) (hlength hnone)⟩
      exact Noted.append hframe hothers

/-- What is left to be counted when a stack was captured or not: a soft failure, unless the stack is
complete. -/
def stackCharge (captured : Option CapturedStack) : List Counter :=
  if captured.isNone || captured.any CapturedStack.truncated then [.softFailures] else []

private theorem noted_describe {ms : List Method} (hms : ms ≠ []) {captured : Option CapturedStack}
    (h : Path (describe ms) lines captured) : Noted lines [] (stackCharge captured) 0 := by
  obtain ⟨first, ⟨frames, failure⟩, later, rfl, hfirst, hlater⟩ := h.of_bind
  obtain ⟨howes, hlength⟩ := noted_resolveAll hfirst
  rcases failure with _ | e
  · obtain ⟨rfl, rfl⟩ := path_pure.mp hlater
    have hframes : frames ≠ [] := by
      intro hnil
      exact hms (List.length_eq_zero_iff.mp ((hlength rfl).symm.trans (hnil ▸ rfl)))
    have hcharge : stackCharge (if frames.isEmpty then none else some ⟨frames, false⟩) = [] := by
      simp [stackCharge, hframes]
    rw [List.append_nil]
    exact hcharge ▸ howes
  · obtain ⟨⟨⟩, rest, rfl, hrest⟩ := path_request_bind.mp hlater
    obtain ⟨rfl, rfl⟩ := path_pure.mp hrest
    have hcharge : stackCharge (if frames.isEmpty then none else some ⟨frames, true⟩) =
        [.softFailures] := by
      cases frames <;> rfl
    exact hcharge ▸ howes.log rfl

/-- **Captures** leave a soft failure to be counted, unless the stack is complete. A stack that is
refused is logged here; a stack without frames is not logged at all. -/
theorem noted_capture {thread depth : Nat} (hd : depth ≠ 0) {captured : Option CapturedStack}
    (h : Path (capture thread depth) lines captured) : Noted lines [] (stackCharge captured) 0 := by
  rw [capture, if_neg hd] at h
  obtain ⟨answer, _, rfl, hcalled⟩ := path_request_bind.mp h
  have hcall := Noted.call (.stackTrace thread 0 (min depth maxDepth)) answer
  rcases answer with e | _ | ⟨m, ms⟩
  · obtain ⟨⟨⟩, _, rfl, hlogged⟩ := path_request_bind.mp hcalled
    obtain ⟨rfl, rfl⟩ := path_pure.mp hlogged
    exact hcall.log rfl
  · obtain ⟨rfl, rfl⟩ := path_pure.mp hcalled
    exact hcall
  · have hsome : (m :: ms).take (min depth maxDepth) ≠ [] := by
      have hpos : 0 < min depth maxDepth := Nat.lt_min.mpr ⟨Nat.pos_of_ne_zero hd, by decide⟩
      simp [Nat.ne_of_gt hpos]
    exact hcall.append (noted_describe hsome hcalled)

section BumpIf

variable {past : List Line} {condition : Bool}

private theorem noted_bumpIf_plain {uncounted : List Counter} {c : Counter}
    (hc : c.ofFailures = false) (hpast : Noted past [] uncounted 0)
    (h : Path (bumpIf condition c) lines ()) :
    Noted (past ++ lines) [] uncounted 0 := by
  cases condition with
  | false =>
    obtain ⟨rfl, -⟩ := path_pure.mp h
    rwa [List.append_nil]
  | true =>
    obtain rfl := path_request h
    exact hpast.plain ⟨rfl, rfl, rfl, Option.filter_some_neg (by simp [hc])⟩

private theorem noted_bumpIf_softFailures
    (hpast : Noted past [] (if condition then [.softFailures] else []) 0)
    (h : Path (bumpIf condition .softFailures) lines ()) : Noted (past ++ lines) [] [] 1 := by
  cases condition with
  | false =>
    obtain ⟨rfl, -⟩ := path_pure.mp h
    rw [List.append_nil]
    exact hpast.mono (Nat.zero_le 1)
  | true =>
    obtain rfl := path_request h
    exact hpast.raise rfl

end BumpIf

/-- Looking for a stack: what the capture left to be counted is counted. -/
private theorem noted_findStack {depth thread : Nat} {stack : Option (List Frame)}
    (h : Path (findStack depth thread) lines stack) : Noted lines [] [] 1 := by
  by_cases hd : depth = 0
  · rw [findStack, if_pos hd] at h
    obtain ⟨rfl, -⟩ := path_pure.mp h
    exact Noted.nil.mono (Nat.zero_le 1)
  rw [findStack, if_neg hd] at h
  obtain ⟨first, captured, _, rfl, hfirst, hcaptured⟩ := h.of_bind
  obtain ⟨⟨⟩, _, rfl, hattempted⟩ := path_request_bind.mp hcaptured
  obtain ⟨second, ⟨⟩, _, rfl, hsecond, htold⟩ := hattempted.of_bind
  obtain ⟨third, ⟨⟩, _, rfl, hthird, hcut⟩ := htold.of_bind
  obtain ⟨last, ⟨⟩, _, rfl, hlast, hdone⟩ := hcut.of_bind
  obtain ⟨rfl, -⟩ := path_pure.mp hdone
  have hattempt : Noted (first ++ [⟨.bump .stacksAttempted, ()⟩]) [] (stackCharge captured) 0 :=
    (noted_capture hd hfirst).plain ⟨rfl, rfl, rfl, rfl⟩
  have hcharged := noted_bumpIf_plain rfl (noted_bumpIf_plain rfl hattempt hsecond) hthird
  have hpaid := noted_bumpIf_softFailures hcharged hlast
  simpa only [List.append_assoc, List.cons_append, List.nil_append, List.append_nil] using hpaid

private theorem noted_findThreadName {thread : Nat} {name : Option String}
    (h : Path (findThreadName thread) lines name) : Noted lines [] [] 1 := by
  obtain ⟨answer, _, rfl, hcalled⟩ := path_request_bind.mp h
  have hcall := Noted.call (.threadInfo thread) answer
  rcases answer with e | text
  · obtain ⟨⟨⟩, _, rfl, hlogged⟩ := path_request_bind.mp hcalled
    obtain ⟨⟨⟩, _, rfl, hcounted⟩ := path_request_bind.mp hlogged
    obtain ⟨rfl, -⟩ := path_pure.mp hcounted
    exact (hcall.log rfl).raise rfl
  · exact (hcall.append (noted_finish hcalled).1).mono (Nat.zero_le 1)

private theorem noted_findOsThreadId {thread : Nat} {id : Option Int64}
    (h : Path (findOsThreadId thread) lines id) : Noted lines [] [] 1 := by
  obtain ⟨answer, _, rfl, hcalled⟩ := path_request_bind.mp h
  have hcall := Noted.call (.osThreadId thread) answer
  rcases answer with e | number
  · obtain ⟨⟨⟩, _, rfl, hlogged⟩ := path_request_bind.mp hcalled
    obtain ⟨⟨⟩, _, rfl, hcounted⟩ := path_request_bind.mp hlogged
    obtain ⟨rfl, -⟩ := path_pure.mp hcounted
    exact (hcall.log rfl).raise rfl
  · obtain ⟨rfl, -⟩ := path_pure.mp hcalled
    exact hcall.mono (Nat.zero_le 1)

private theorem noted_emit {name : String} {count : UInt64} {thread : Nat} {outcome : Outcome}
    (h : Path (emit name count thread) lines outcome) : Noted lines [] [] 3 := by
  obtain ⟨depth, _, rfl, hdepth⟩ := path_request_bind.mp h
  obtain ⟨first, stack, _, rfl, hfirst, hstack⟩ := hdepth.of_bind
  obtain ⟨second, threadName, _, rfl, hsecond, hname⟩ := hstack.of_bind
  obtain ⟨third, osThreadId, _, rfl, hthird, hid⟩ := hname.of_bind
  obtain ⟨⟨⟩, _, rfl, hsent⟩ := path_request_bind.mp hid
  obtain ⟨⟨⟩, _, rfl, hdone⟩ := path_request_bind.mp hsent
  obtain ⟨rfl, -⟩ := path_pure.mp hdone
  have hbegin : Noted [⟨.depth, depth⟩] [] [] 0 := Noted.nil.plain ⟨rfl, rfl, rfl, rfl⟩
  have hend (payload : String) :
      Noted [⟨.send payload, ()⟩, ⟨.bump .recordsEmitted, ()⟩] [] [] 0 :=
    (Noted.nil.plain ⟨rfl, rfl, rfl, rfl⟩).plain ⟨rfl, rfl, rfl, rfl⟩
  exact hbegin.append ((noted_findStack hfirst).append ((noted_findThreadName hsecond).append
    ((noted_findOsThreadId hthird).append (hend _))))

/-- **Events owe nothing at the end**, whatever becomes of them. -/
theorem noted_observe {thread object : Nat} {outcome : Outcome}
    (h : Path (observe thread object) lines outcome) : Noted lines [] [] 3 := by
  obtain ⟨⟨⟩, _, rfl, hseen⟩ := path_request_bind.mp h
  obtain ⟨admitted, _, rfl, hdecided⟩ := path_request_bind.mp hseen
  have hbegin : Noted [⟨.bump .eventsSeen, ()⟩, ⟨.decide, admitted⟩] [] [] 0 :=
    (Noted.nil.plain ⟨rfl, rfl, rfl, rfl⟩).plain ⟨rfl, rfl, rfl, rfl⟩
  cases admitted with
  | false =>
    obtain ⟨rfl, -⟩ := path_pure.mp hdecided
    exact hbegin.mono (Nat.zero_le 3)
  | true =>
    obtain ⟨⟨⟩, _, rfl, hsampled⟩ := path_request_bind.mp hdecided
    obtain ⟨answer, _, rfl, hcalled⟩ := path_request_bind.mp hsampled
    have hsampled : Noted [⟨.bump .eventsSeen, ()⟩, ⟨.decide, true⟩, ⟨.bump .eventsSampled, ()⟩]
        [] [] 0 := hbegin.plain ⟨rfl, rfl, rfl, rfl⟩
    have hcall := hsampled.append (Noted.call (.objectClass object) answer)
    rcases answer with e | name
    · obtain ⟨⟨⟩, _, rfl, hlogged⟩ := path_request_bind.mp hcalled
      obtain ⟨⟨⟩, _, rfl, hcounted⟩ := path_request_bind.mp hlogged
      obtain ⟨rfl, -⟩ := path_pure.mp hcounted
      exact ((hcall.log rfl).raise rfl).mono (by decide)
    · obtain ⟨count, _, rfl, hemit⟩ := path_request_bind.mp hcalled
      have hcount : Noted [⟨.count name, count⟩] [] [] 0 := Noted.nil.plain ⟨rfl, rfl, rfl, rfl⟩
      exact hcall.append (hcount.append (noted_emit hemit))

end Talk

/-! ### Numbers -/

/-- What a line is charged: a stack without frames did not fail, and otherwise it is the failure
that is charged. -/
private theorem Line.charge?_cases (line : Line) :
    (line.noFrames = true ∧ line.failed? = none ∧ line.charge? = some .softFailures) ∨
      (line.noFrames = false ∧ line.charge? = line.failed?.bind (·.purpose.counter?)) := by
  obtain ⟨a, answer⟩ := line
  cases a with
  | call q =>
    rcases hq : q.noFrames answer with _ | _
    · exact .inr ⟨hq, if_neg (by simp [hq])⟩
    · refine .inl ⟨hq, ?_, if_pos hq⟩
      cases q with
      | stackTrace thread start most =>
        rcases answer with e | methods
        · cases hq
        · rfl
      | _ => cases hq
  | _ => exact .inr ⟨rfl, rfl⟩

private theorem Line.count_charge? (line : Line) (c : Counter) :
    line.charge?.toList.count c =
      line.failed?.toList.countP (·.purpose.counter? = some c) +
        if c = .softFailures then [line].countP Line.noFrames else 0 := by
  rcases line.charge?_cases with ⟨hempty, hfailed, hcharge⟩ | ⟨hfull, hcharge⟩
  · by_cases hc : c = .softFailures
    · simp [hempty, hfailed, hcharge, hc]
    · simp [hfailed, hcharge, hc, Ne.symm hc]
  · rcases hfailed : line.failed? with _ | f
    · simp [hfull, hcharge, hfailed]
    · rcases hcounter : f.purpose.counter? with _ | charged <;>
        simp [hfull, hcharge, hfailed, hcounter, List.count_singleton]

/-- **What lines are charged.** Each counter is charged with its failures, and the one of soft
failures with the stacks without frames as well. -/
theorem count_charges (lines : List Line) (c : Counter) :
    (lines.filterMap Line.charge?).count c =
      chargedTo c lines + if c = .softFailures then emptyStacks lines else 0 := by
  induction lines with
  | nil => simp [chargedTo, failures, emptyStacks]
  | cons line rest ih =>
    have hfirst {γ : Type} (f : Line → Option γ) :
        (line :: rest).filterMap f = (f line).toList ++ rest.filterMap f := by
      rw [← List.singleton_append, List.filterMap_append, Line.filterMap_singleton]
    have hempty : emptyStacks (line :: rest) = [line].countP Line.noFrames + emptyStacks rest := by
      rw [emptyStacks, ← List.singleton_append, List.countP_append, emptyStacks]
    rw [chargedTo, failures, hfirst, hfirst, List.count_append, List.countP_append, ih,
      line.count_charge? c, hempty, chargedTo, failures]
    split <;> omega

/-- Every failure raises one of the two counters, unless a buffer was not taken back. -/
private theorem length_failures (lines : List Line) :
    (failures lines).length =
      chargedTo .unresolvedObjects lines + chargedTo .softFailures lines + refusals lines := by
  rw [chargedTo, chargedTo, refusals]
  induction failures lines with
  | nil => rfl
  | cons f rest ih =>
    obtain ⟨purpose, cause⟩ := f
    cases purpose <;> simp [Purpose.counter?, ih] <;> omega

/-- The counters of failures among those that are raised. -/
private theorem raised_eq_filter (lines : List Line) :
    lines.filterMap Line.raised? = (lines.filterMap Line.counter?).filter Counter.ofFailures :=
  List.filter_filterMap.symm

private theorem length_raised (lines : List Line) :
    (lines.filterMap Line.raised?).length =
      (lines.filterMap Line.counter?).count .unresolvedObjects +
        (lines.filterMap Line.counter?).count .softFailures := by
  rw [raised_eq_filter]
  induction lines.filterMap Line.counter? with
  | nil => rfl
  | cons c rest ih => cases c <;> simp [List.filter_cons, Counter.ofFailures, ih] <;> omega

/-- Lines that owe nothing: the counters are what they are charged. -/
theorem Noted.count_eq {lines : List Line} {most : Nat} (h : Noted lines [] [] most) {c : Counter}
    (hc : c.ofFailures = true) :
    (lines.filterMap Line.counter?).count c = (lines.filterMap Line.charge?).count c := by
  have hcounted := h.counted
  rw [List.append_nil] at hcounted
  rw [← hcounted.count_eq, raised_eq_filter, List.count_filter hc]

/-! ### Stations -/

namespace Sink

/-- The sink takes every payload, whatever it was handed before. -/
def NeverFails (s : Sink) : Prop :=
  ∀ payloads payload, ((s.sendAll payloads).send payload).1 = []

theorem NeverFails.send {s : Sink} (h : s.NeverFails) (payload : String) :
    (s.send payload).2.NeverFails := fun payloads => h (payload :: payloads)

/-- Channels with a receiver, functions, and writers without limits. -/
private def ready : Sink → Bool
  | .channel connected _ => connected
  | .closure _ => true
  | .writer w => w.room.isNone && w.chunk.isNone && !w.failsFlush

private theorem send_of_ready {s : Sink} (h : s.ready = true) (payload : String) :
    (s.send payload).1 = [] ∧ (s.send payload).2.ready = true := by
  cases s with
  | channel connected delivered =>
    obtain rfl : connected = true := h
    exact ⟨rfl, rfl⟩
  | closure delivered => exact ⟨rfl, rfl⟩
  | writer w =>
    obtain ⟨_ | _, _ | _, _ | _, written⟩ := w <;> try cases h
    simp [send, Writer.writeLine, Writer.writeAll_unlimited, Writer.flush, ready]

/-- Some sinks that never fail. -/
private theorem neverFails_of_ready {s : Sink} (h : s.ready = true) : s.NeverFails := by
  intro payloads
  induction payloads generalizing s with
  | nil => exact fun payload => (send_of_ready h payload).1
  | cons first rest ih => exact ih (send_of_ready h first).2

end Sink

namespace Station

/-- **What a station wrote** in the course of some lines: the log got theirs and no others, the
counters were raised as they say, and buffers were refused if the host takes none. -/
structure Wrote (first s : Station) (past : List Line) : Prop where
  neverFails : s.sink.NeverFails
  log : s.log = first.log ++ past.filterMap Line.entry?
  metrics : s.monitor.metrics =
    (past.filterMap Line.counter?).foldl Metrics.bump first.monitor.metrics
  conduct : s.monitor.host.conduct = first.monitor.host.conduct
  refused : refusals past =
    if first.monitor.host.conduct.leaky then past.countP Line.handsBack else 0

theorem Wrote.refl {s : Station} (h : s.sink.NeverFails) : Wrote s s [] where
  neverFails := h
  log := (List.append_nil _).symm
  metrics := rfl
  conduct := rfl
  refused := (ite_self 0).symm

section Perform

variable (s : Station) (a : Action)

private theorem log_perform (h : s.sink.NeverFails) :
    (s.perform a).2.log = s.log ++ [(⟨a, (s.perform a).1⟩ : Line)].filterMap Line.entry? := by
  cases a with
  | send payload => exact congrArg (s.log ++ ·) (h [] payload)
  | log entry => rfl
  | call q => rfl
  | _ => exact (List.append_nil _).symm

private theorem neverFails_perform (h : s.sink.NeverFails) : (s.perform a).2.sink.NeverFails := by
  cases a with
  | send payload => exact h.send payload
  | _ => exact h

/-- A buffer is refused by a host that takes none, and by no other. -/
private theorem refused_perform :
    refusals [⟨a, (s.perform a).1⟩] =
      if s.monitor.host.conduct.leaky then [(⟨a, (s.perform a).1⟩ : Line)].countP Line.handsBack
      else 0 := by
  cases a with
  | call q =>
    -- only handing a buffer back has this purpose
    have hother (hq : q.purpose ≠ .release) (answer : q.Answer) :
        refusals [⟨.call q, answer⟩] = 0 := by
      rcases hf : q.failed? answer with _ | f
      · simp [refusals, failures, Line.failed?, hf]
      · have hpurpose : f.purpose ≠ .release := by
          obtain ⟨e, -, rfl⟩ := Option.map_eq_some_iff.mp hf
          exact hq
        simp [refusals, failures, Line.failed?, hf, hpurpose]
    cases q with
    | deallocate b =>
      have hanswer : (s.perform (.call (.deallocate b))).1 = (s.monitor.host.deallocate b).1 := rfl
      rw [hanswer, Host.deallocate]
      split <;> rfl
    | _ => exact (hother (by simp [Query.purpose]) _).trans (ite_self 0).symm
  | _ => exact (ite_self 0).symm

end Perform

/-- **One action.** -/
theorem Wrote.perform {first s : Station} {past : List Line} (h : Wrote first s past) (a : Action) :
    Wrote first (s.perform a).2 (past ++ [⟨a, (s.perform a).1⟩]) where
  neverFails := s.neverFails_perform a h.neverFails
  log := by rw [log_perform s a h.neverFails, h.log, List.filterMap_append, List.append_assoc]
  metrics := by rw [metrics_perform, h.metrics, List.filterMap_append, List.foldl_append]
  conduct := by rw [conduct_perform, h.conduct]
  refused := by
    have hone := s.refused_perform a
    rw [h.conduct] at hone
    rw [refusals_append, h.refused, hone, List.countP_append]
    split <;> rfl

/-- A dialogue. -/
private theorem Wrote.talk {first s : Station} {past : List Line} (h : Wrote first s past)
    (d : Talk α) :
    Wrote first (d.run Station.perform s).2 (past ++ d.transcript Station.perform s) :=
  (Interleaving.alone Station.perform d s).follows (fun _ _ a hs => hs.perform a) h

/-- **One step.** -/
theorem Wrote.step {first s : Station} {past : List Line} (h : Wrote first s past)
    (next : Monitor.Step) :
    Wrote first (s.step (.ofMonitor next)).2 (past ++ s.stepTranscript (.ofMonitor next)) := by
  cases next with
  | control change =>
    have hnone : s.stepTranscript (.ofMonitor (.control change)) = [] := rfl
    rw [hnone, List.append_nil]
    exact ⟨h.neverFails, h.log, h.metrics, h.conduct, h.refused⟩
  | event thread object =>
    have htalk := h.talk (Talk.observe thread object)
    rw [Talk.run_observe] at htalk
    exact htalk

/-- **A run.** -/
theorem Wrote.run {first s : Station} {past : List Line} (h : Wrote first s past)
    (steps : List Monitor.Step) :
    Wrote first (s.run (steps.map Step.ofMonitor)).2
      (past ++ s.transcript (steps.map Step.ofMonitor)) := by
  induction steps generalizing s past with
  | nil =>
    rw [List.map_nil, transcript, List.append_nil]
    exact h
  | cons next rest ih =>
    rw [List.map_cons, transcript, ← List.append_assoc]
    exact ih (h.step next)

/-- Nothing is owed at the end of a run, and three counters are raised for an event at most. -/
theorem noted_run (s : Station) (steps : List Monitor.Step) :
    Noted (s.transcript (steps.map Step.ofMonitor)) [] [] (3 * Reference.events steps) := by
  induction steps generalizing s with
  | nil => exact .nil
  | cons next rest ih =>
    cases next with
    | control change => exact ih (s.control change)
    | event thread object =>
      have hevent := Talk.noted_observe (path_transcript perform (Talk.observe thread object) s)
      have hboth := hevent.append (ih (s.observe thread object).2)
      rw [Reference.events_event, Nat.mul_add, Nat.add_comm]
      exact hboth

end Station

/-! ### The main statement -/

/-- **The log tells of these lines**: of each failure once, of nothing else, and in lines of the
lowest level. -/
structure Log.Tells (log : List Entry) (lines : List Line) : Prop where
  once : (log.map Entry.failure?).Perm ((failures lines).map some)
  debug : ∀ e ∈ log, e.level = .debug

theorem Noted.tells {lines : List Line} {most : Nat} (h : Noted lines [] [] most) :
    Log.Tells (lines.filterMap Line.entry?) lines := by
  have honce := h.logged
  rw [List.map_nil, List.append_nil] at honce
  refine ⟨honce, fun e he => ?_⟩
  obtain ⟨f, -, hf⟩ := List.mem_map.mp (honce.subset (List.mem_map_of_mem he))
  exact Entry.level_of_failure? hf.symm

/-- **Failures are logged once.** A fresh station has a sink that never fails, and its sampling is
changed and events happen to it in any order. Then its log tells of the calls to the host that
failed, of each of them once and of nothing else, in lines of the lowest level. Changes of the
sampling are not logged, and the next event, held as a dialogue, adds a line for each of its own
calls that fails, so that an event all of whose calls succeed is not logged either.

The two counters hold the failures that raise them, and the one of soft failures also the stacks
that the host answered without a frame; buffers that are not taken back, which are all that are
handed back if the host is leaky and none if it is not, are not counted. So the lines of the log are
both counters together, less the stacks without frames, with the buffers not taken back added. This
is an equation between words, and one between numbers unless there are too many failures for a word
to count; an event has three at most. -/
theorem failures_logged_once (host : Host) (sink : Sink) (hsink : sink.NeverFails)
    (steps : List Monitor.Step) :
    let start : Station := { monitor := { host := host }, sink := sink }
    let last := (start.run (steps.map Station.Step.ofMonitor)).2
    let lines := start.transcript (steps.map Station.Step.ofMonitor)
    let unresolved := last.monitor.metrics.unresolvedObjects
    let soft := last.monitor.metrics.softFailures
    let empty := emptyStacks lines
    let refused := refusals lines
    Log.Tells last.log lines ∧
      (∀ change, (last.control change).log = last.log) ∧
      (∀ thread object,
        (Talk.observe thread object).run Station.perform last = last.observe thread object ∧
          ∃ written, (last.observe thread object).2.log = last.log ++ written ∧
            Log.Tells written ((Talk.observe thread object).transcript Station.perform last)) ∧
      (unresolved = .ofNat (chargedTo .unresolvedObjects lines) ∧
        soft = .ofNat (chargedTo .softFailures lines + empty)) ∧
      refused = (if host.conduct.leaky then lines.countP Line.handsBack else 0) ∧
      .ofNat last.log.length = unresolved + soft - .ofNat empty + .ofNat refused ∧
      last.log.length + empty ≤ 3 * Reference.events steps + refused ∧
      (last.log.length + empty < UInt64.size + refused →
        empty ≤ soft.toNat ∧
          last.log.length = unresolved.toNat + soft.toNat - empty + refused) := by
  intro start last lines unresolved soft empty refused
  have hwrote : start.Wrote last lines := (Station.Wrote.refl hsink).run steps
  have hnoted : Noted lines [] [] (3 * Reference.events steps) := start.noted_run steps
  have hlog : last.log = lines.filterMap Line.entry? := hwrote.log
  have htells : Log.Tells last.log lines := hlog ▸ hnoted.tells
  have hlength : last.log.length = (failures lines).length := by
    simpa using htells.once.length_eq
  -- each counter is what it is charged
  have hcounter {c : Counter} (hc : c.ofFailures = true) : last.monitor.metrics.counter c =
      .ofNat ((lines.filterMap Line.charge?).count c) := by
    have hzero : start.monitor.metrics.counter c = 0 := by cases c <;> rfl
    rw [hwrote.metrics, Metrics.counter_foldl_bump, hzero, UInt64.zero_add, hnoted.count_eq hc]
  have hunresolved : unresolved = .ofNat (chargedTo .unresolvedObjects lines) := by
    have hcharged := @hcounter .unresolvedObjects rfl
    rwa [count_charges] at hcharged
  have hsoft : soft = .ofNat (chargedTo .softFailures lines + empty) := by
    have hcharged := @hcounter .softFailures rfl
    rwa [count_charges] at hcharged
  have hsum : last.log.length + empty =
      chargedTo .unresolvedObjects lines + (chargedTo .softFailures lines + empty) + refused := by
    rw [hlength, length_failures]
    omega
  refine ⟨htells, fun _ => rfl, ?_, ⟨hunresolved, hsoft⟩, hwrote.refused, ?_, ?_, ?_⟩
  · intro thread object
    have hevent := (Station.Wrote.refl hwrote.neverFails).talk (Talk.observe thread object)
    rw [Talk.run_observe, List.nil_append] at hevent
    exact ⟨Talk.run_observe last thread object, _, hevent.log,
      (Talk.noted_observe (path_transcript _ _ _)).tells⟩
  · have hwords := congrArg UInt64.ofNat hsum
    rw [UInt64.ofNat_add, UInt64.ofNat_add, UInt64.ofNat_add, ← hunresolved, ← hsoft] at hwords
    grind
  · have hfew := hnoted.few
    rw [length_raised, hnoted.count_eq rfl, hnoted.count_eq rfl, count_charges, count_charges,
      if_neg nofun, if_pos rfl, Nat.add_zero] at hfew
    omega
  · intro hlt
    have hunresolved' : unresolved.toNat = chargedTo .unresolvedObjects lines := by
      rw [hunresolved, UInt64.toNat_ofNat_of_lt' (by omega)]
    have hsoft' : soft.toNat = chargedTo .softFailures lines + empty := by
      rw [hsoft, UInt64.toNat_ofNat_of_lt' (by omega)]
    omega

/-- A host takes no buffer back. The first event has a stack that is cut short, the second one a
stack without frames and no id, and the object of the third one fails. Seven buffers are not taken
back. -/
theorem failures_logged_once_leaky :
    let scenario : Scenario :=
      { objects := [⟨"Lock", false⟩, ⟨"Gone", true⟩]
        threads := [{ name := "main"
                      osThreadId := some 7
                      frames := [⟨"LMain;", "run", "()V", none⟩,
                        ⟨"LMain;", "main", "()V", some .classSignature⟩] },
                    { name := "idle" }] }
    let host : Host := { scenario := scenario, conduct := { leaky := true } }
    let sink : Sink := .channel true []
    let start : Station := { monitor := { host := host }, sink := sink }
    let steps : List Monitor.Step := [.control (.depth 5), .event 0 0, .event 1 0, .event 0 1]
    let last := (start.run (steps.map Station.Step.ofMonitor)).2
    let lines := start.transcript (steps.map Station.Step.ofMonitor)
    sink.NeverFails ∧ last.monitor.metrics.unresolvedObjects.toNat = 1 ∧
      last.monitor.metrics.softFailures.toNat = 3 ∧ emptyStacks lines = 1 ∧
      refusals lines = 7 ∧ last.log.length = 1 + 3 - 1 + 7 := by
  intro scenario host sink start steps
  have hready : sink.NeverFails := Sink.neverFails_of_ready rfl
  obtain ⟨-, -, -, -, hrefused, -, -, hnumbers⟩ := failures_logged_once host sink hready steps
  dsimp only [start]
  refine ⟨hready, by decide +kernel, by decide +kernel, by decide +kernel,
    hrefused.trans (by decide +kernel), ?_⟩
  exact (hnumbers (by decide +kernel)).2.trans (by decide +kernel)

end Contention
