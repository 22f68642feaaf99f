import Contention.Proofs.Framing
import Contention.Proofs.Interleaving
import Contention.Proofs.Monitor
import Contention.Proofs.Trace

/-!
# The lines of a call

A call that observes an event leaves lines in the trace of a station, with lines of other calls
between them. What the lines are depends on little: on the scenario, the conduct and the depth,
which do not change, on the answer to its **decision**, and on the **count** that its event gets. A
refused event leaves two lines, `Talk.admission` are the lines of any other one, and
`Talk.path_observe` says that there is nothing else.

So a `Call`, which is an event with a path of its dialogue and steady answers on it, has a known
shape, and what it adds to the parts of a trace can be told. Only the payload and the answer to the
count depend on the count (`Talk.filterMap_admission`).
-/

namespace Contention

open Dialogue Log

/-! ### Records without their count -/

/-- The record without its count. -/
def Record.uncounted (r : Record) : Record := { r with count := 0 }

/-- The record that a payload stands for, without its count. -/
def Record.uncounted? (payload : String) : Option Record :=
  (ofText payload).toOption.map uncounted

theorem Record.uncounted?_payload (r : Record) : uncounted? r.payload = some r.uncounted := by
  rw [uncounted?, r.ofText_payload]
  rfl

/-- The record that is sent, without its count. -/
def Line.uncounted? (line : Line) : Option Record := line.payload?.bind Record.uncounted?

/-- Picking something out of a trace without looking at counts, be it in answers or in payloads. -/
structure Line.Uncounting (f : Line → Option γ) : Prop where
  count : ∀ (name : String) (count count' : UInt64),
    f ⟨.count name, count⟩ = f ⟨.count name, count'⟩
  send : ∀ payload payload', Record.uncounted? payload = Record.uncounted? payload' →
    f ⟨.send payload, ()⟩ = f ⟨.send payload', ()⟩

/-! ### Actions by the way -/

/-- What is done while the record of an event is put together: the host is asked, and what comes of
it is counted. -/
private def Action.byTheWay : Action → Bool
  | .depth => true
  | .call _ => true
  | .log _ => true
  | .bump .stacksAttempted => true
  | .bump .stacksCaptured => true
  | .bump .stacksTruncated => true
  | .bump .softFailures => true
  | _ => false

private theorem Action.steady_of_byTheWay {a : Action} (h : a.byTheWay = true) :
    a.steady = true := by
  cases a with
  | decide => cases h
  | count name => cases h
  | _ => rfl

namespace Talk

/-- Every action of the dialogue is by the way. -/
private abbrev ByTheWay (d : Talk α) : Prop := d.Asks (·.byTheWay = true)

private theorem byTheWay_pure (a : α) : ByTheWay (pure a : Talk α) := trivial

private theorem byTheWay_request {a : Action} (h : a.byTheWay = true) : ByTheWay (request a) :=
  ⟨h, fun _ => trivial⟩

private theorem byTheWay_call (q : Query) : ByTheWay (call q) := byTheWay_request rfl

private theorem byTheWay_log (e : Entry) : ByTheWay (log e) := byTheWay_request rfl

private theorem byTheWay_bumpIf {c : Counter} (h : (Action.bump c).byTheWay = true)
    (condition : Bool) :
    ByTheWay (bumpIf condition c) := by
  cases condition with
  | false => exact byTheWay_pure ()
  | true => exact byTheWay_request h

private theorem byTheWay_releaseAll (bs : List Buffer) : ByTheWay (releaseAll bs) := by
  induction bs with
  | nil => exact byTheWay_pure ()
  | cons b rest ih =>
    have hrelease : ByTheWay (release b) := (byTheWay_call _).bind fun answer => by
      rcases answer with e | ⟨⟩
      · exact byTheWay_log _
      · exact byTheWay_pure ()
    exact hrelease.bind fun _ => ih

private theorem byTheWay_finish (bs : List Buffer) (a : α) : ByTheWay (finish bs a) :=
  (byTheWay_releaseAll bs).bind fun _ => byTheWay_pure a

private theorem byTheWay_resolve (m : Method) : ByTheWay (resolve m) := by
  refine (byTheWay_call _).bind fun answer => ?_
  rcases answer with e | ⟨name, signature⟩
  · exact byTheWay_pure _
  refine (byTheWay_call _).bind fun answer => ?_
  rcases answer with e | c
  · exact byTheWay_finish _ _
  refine (byTheWay_call _).bind fun answer => ?_
  rcases answer with e | cls
  · exact byTheWay_finish _ _
  · exact byTheWay_finish _ _

private theorem byTheWay_resolveAll (ms : List Method) : ByTheWay (resolveAll ms) := by
  induction ms with
  | nil => exact byTheWay_pure _
  | cons m rest ih =>
    refine (byTheWay_resolve m).bind fun resolved => ?_
    rcases resolved with e | frame
    · exact byTheWay_pure _
    · exact ih.bind fun later => byTheWay_pure _

private theorem byTheWay_describe (ms : List Method) : ByTheWay (describe ms) := by
  refine (byTheWay_resolveAll ms).bind fun resolved => ?_
  obtain ⟨frames, _ | e⟩ := resolved
  · exact byTheWay_pure _
  · exact (byTheWay_log _).bind fun _ => byTheWay_pure _

private theorem byTheWay_capture (thread depth : Nat) : ByTheWay (capture thread depth) := by
  rw [capture]
  split
  · exact byTheWay_pure none
  refine (byTheWay_call _).bind fun answer => ?_
  rcases answer with e | _ | ⟨m, ms⟩
  · exact (byTheWay_log _).bind fun _ => byTheWay_pure none
  · exact byTheWay_pure none
  · exact byTheWay_describe _

private theorem byTheWay_findStack (depth thread : Nat) : ByTheWay (findStack depth thread) := by
  rw [findStack]
  split
  · exact byTheWay_pure none
  · exact (byTheWay_capture thread depth).bind fun _ => (byTheWay_request rfl).bind fun _ =>
      (byTheWay_bumpIf rfl _).bind fun _ => (byTheWay_bumpIf rfl _).bind fun _ =>
      (byTheWay_bumpIf rfl _).bind fun _ => byTheWay_pure _

private theorem byTheWay_findThreadName (thread : Nat) : ByTheWay (findThreadName thread) := by
  refine (byTheWay_call _).bind fun answer => ?_
  rcases answer with e | name
  · exact (byTheWay_log _).bind fun _ => (byTheWay_request rfl).bind fun _ => byTheWay_pure none
  · exact byTheWay_finish _ _

private theorem byTheWay_findOsThreadId (thread : Nat) : ByTheWay (findOsThreadId thread) := by
  refine (byTheWay_call _).bind fun answer => ?_
  rcases answer with e | id
  · exact (byTheWay_log _).bind fun _ => (byTheWay_request rfl).bind fun _ => byTheWay_pure none
  · exact byTheWay_pure (some id)

/-! ### Records without their number -/

/-- Put the record of an event together, all but its number. -/
def unnumbered (name : String) (thread : Nat) : Talk Record := do
  let depth ← depth
  let stack ← findStack depth thread
  let threadName ← findThreadName thread
  let osThreadId ← findOsThreadId thread
  pure { className := name, count := 0, stackTrace := stack, threadName, osThreadId }

private theorem emit_eq (name : String) (count : UInt64) (thread : Nat) :
    emit name count thread = (do
      let r ← unnumbered name thread
      send { r with count := count }.payload
      bump .recordsEmitted
      pure (.emitted count)) := by
  simp only [emit, unnumbered, bind_bind]
  rfl

private theorem byTheWay_unnumbered (name : String) (thread : Nat) :
    ByTheWay (unnumbered name thread) :=
  (byTheWay_request rfl).bind fun depth => (byTheWay_findStack depth thread).bind fun _ =>
    (byTheWay_findThreadName thread).bind fun _ => (byTheWay_findOsThreadId thread).bind fun _ =>
    byTheWay_pure _

/-! ### The lines of one call -/

/-- The lines of an event that is not sampled. -/
def refusal : List Line := [⟨.bump .eventsSeen, ()⟩, ⟨.decide, false⟩]

/-- The lines of an event of an object whose type cannot be told. -/
def failure (object : Nat) (e : HostError) : List Line :=
  [⟨.bump .eventsSeen, ()⟩, ⟨.decide, true⟩, ⟨.bump .eventsSampled, ()⟩,
    ⟨.call (.objectClass object), .error e⟩, ⟨.log (.objectUnresolved e), ()⟩,
    ⟨.bump .unresolvedObjects, ()⟩]

/-- The lines of any other event up to its count. -/
def opening (object : Nat) (name : String) (count : UInt64) : List Line :=
  [⟨.bump .eventsSeen, ()⟩, ⟨.decide, true⟩, ⟨.bump .eventsSampled, ()⟩,
    ⟨.call (.objectClass object), .ok name⟩, ⟨.count name, count⟩]

/-- The lines in which a record is put together, if the answers are steady. -/
def inquiry (host : Host) (depth : Nat) (name : String) (thread : Nat) : List Line :=
  (unnumbered name thread).transcript (steadily (Station.reply host depth)) ()

/-- The record that comes of it. -/
def recordOf (host : Host) (depth : Nat) (name : String) (thread : Nat) : Record :=
  ((unnumbered name thread).run (steadily (Station.reply host depth)) ()).1

/-- The lines in which a record is sent under its count. -/
def closing (r : Record) (count : UInt64) : List Line :=
  [⟨.send { r with count := count }.payload, ()⟩, ⟨.bump .recordsEmitted, ()⟩]

/-- The lines of an event that is sampled, if `count` is the answer where it is counted. -/
def admission (host : Host) (depth thread object : Nat) (count : UInt64) : List Line :=
  match host.scenario.objectClass object with
  | .error e => failure object e
  | .ok name =>
    opening object name count ++ inquiry host depth name thread ++
      closing (recordOf host depth name thread) count

variable {host : Host} {depth : Nat}

/-- The lines after the count. -/
private theorem path_emit {name : String} {count : UInt64} {thread : Nat} {lines : List Line}
    {outcome : Outcome} (h : Path (emit name count thread) lines outcome)
    (hanswers : ∀ line ∈ lines, Station.Answers host depth line) :
    lines = inquiry host depth name thread ++ closing (recordOf host depth name thread) count ∧
      outcome = .emitted count := by
  rw [emit_eq] at h
  obtain ⟨first, r, rest, rfl, hfirst, hrest⟩ := h.of_bind
  obtain ⟨hlines, hr⟩ := hfirst.eq_transcript fun line hline =>
    hanswers line (List.mem_append_left _ hline)
      (Action.steady_of_byTheWay (hfirst.asks (byTheWay_unnumbered name thread) line hline))
  obtain ⟨⟨⟩, _, rfl, hbump⟩ := path_request_bind.mp hrest
  obtain ⟨⟨⟩, _, rfl, hdone⟩ := path_request_bind.mp hbump
  obtain ⟨rfl, rfl⟩ := path_pure.mp hdone
  obtain rfl : r = recordOf host depth name thread := hr
  obtain rfl : first = inquiry host depth name thread := hlines
  exact ⟨rfl, rfl⟩

/-- **The lines of a call.** It was refused, or the type of its object could not be told, or it was
counted and its record was sent. -/
theorem path_observe {thread object : Nat} {lines : List Line} {outcome : Outcome}
    (h : Path (observe thread object) lines outcome)
    (hanswers : ∀ line ∈ lines, Station.Answers host depth line) :
    (lines = refusal ∧ outcome = .notSampled) ∨
      (∃ e, host.scenario.objectClass object = .error e ∧ lines = failure object e ∧
        outcome = .unresolved) ∨
      ∃ name count, host.scenario.objectClass object = .ok name ∧
        lines = opening object name count ++ inquiry host depth name thread ++
          closing (recordOf host depth name thread) count ∧
        outcome = .emitted count := by
  obtain ⟨⟨⟩, _, rfl, hseen⟩ := path_request_bind.mp h
  obtain ⟨admitted, _, rfl, hdecided⟩ := path_request_bind.mp hseen
  cases admitted with
  | false =>
    obtain ⟨rfl, rfl⟩ := path_pure.mp hdecided
    exact .inl ⟨rfl, rfl⟩
  | true =>
    obtain ⟨⟨⟩, _, rfl, hsampled⟩ := path_request_bind.mp hdecided
    obtain ⟨answer, _, rfl, hcalled⟩ := path_request_bind.mp hsampled
    have hanswer : answer = host.scenario.objectClass object :=
      hanswers ⟨.call (.objectClass object), answer⟩ (by simp) rfl
    rcases answer with e | name
    · obtain ⟨⟨⟩, _, rfl, hlogged⟩ := path_request_bind.mp hcalled
      obtain ⟨⟨⟩, _, rfl, hdone⟩ := path_request_bind.mp hlogged
      obtain ⟨rfl, rfl⟩ := path_pure.mp hdone
      exact .inr (.inl ⟨e, hanswer.symm, rfl, rfl⟩)
    · obtain ⟨count, _, rfl, hcounted⟩ := path_request_bind.mp hcalled
      obtain ⟨rfl, rfl⟩ := path_emit hcounted fun line hline => hanswers line (by simp [hline])
      exact .inr (.inr ⟨name, count, hanswer.symm, rfl, rfl⟩)

/-! ### What is picked out of the lines of a call -/

/-- Nothing but steps by the way happens while a record is put together. -/
private theorem byTheWay_of_mem_inquiry {name : String} {thread : Nat} :
    ∀ line ∈ inquiry host depth name thread, line.1.byTheWay = true :=
  (path_transcript _ _ _).asks (byTheWay_unnumbered name thread)

/-- Steps by the way are no decisions, no counts and no payloads. -/
private theorem none_of_byTheWay {line : Line} (h : line.1.byTheWay = true) :
    line.admitted? = none ∧ line.counted? = none ∧ line.payload? = none := by
  obtain ⟨a, answer⟩ := line
  cases a with
  | decide => cases h
  | count name => cases h
  | send payload => cases h
  | _ => exact ⟨rfl, rfl, rfl⟩

private theorem filterMap_inquiry {f : Line → Option γ}
    (hf : ∀ line, line.1.byTheWay = true → f line = none) (name : String) (thread : Nat) :
    (inquiry host depth name thread).filterMap f = [] :=
  List.filterMap_eq_nil_iff.mpr fun line hline => hf line (byTheWay_of_mem_inquiry line hline)

private theorem count_inquiry {c : Counter} (hc : (Action.bump c).byTheWay = false) (name : String)
    (thread : Nat) : ((inquiry host depth name thread).filterMap Line.counter?).count c = 0 := by
  refine List.count_eq_zero.mpr fun hmem => ?_
  obtain ⟨⟨a, answer⟩, hline, hcounter⟩ := List.mem_filterMap.mp hmem
  have hway := byTheWay_of_mem_inquiry _ hline
  cases a with
  | bump raised =>
    obtain rfl : raised = c := Option.some.inj hcounter
    exact Bool.false_ne_true (hc.symm.trans hway)
  | _ => cases hcounter

private theorem className_recordOf (host : Host) (depth : Nat) (name : String) (thread : Nat) :
    (recordOf host depth name thread).className = name := by
  simp only [recordOf, unnumbered, run_bind, run_pure]

/-- **Only the payload and the answer to the count depend on the count.** -/
theorem filterMap_admission {f : Line → Option γ} (hf : Line.Uncounting f) (thread object : Nat)
    (count count' : UInt64) :
    (admission host depth thread object count).filterMap f =
      (admission host depth thread object count').filterMap f := by
  unfold admission
  split
  · rfl
  · next name _ =>
    have hsend := hf.send { recordOf host depth name thread with count := count }.payload
      { recordOf host depth name thread with count := count' }.payload
      (by rw [Record.uncounted?_payload, Record.uncounted?_payload]; rfl)
    simp only [List.filterMap_append, opening, closing, List.filterMap_cons,
      hf.count name count count', hsend]

end Talk

/-- The name under which an event with this outcome was counted, and its count. -/
def Scenario.emittedAs (s : Scenario) : (Nat × Nat) × Outcome → Option (String × UInt64)
  | ((_, object), .emitted count) => (s.className? object).map fun name => (name, count)
  | _ => none

/-- An event with the lines of the call that observed it; all steady answers among them are those of
one host and one depth. -/
structure Call (host : Host) (depth : Nat) where
  event : Nat × Nat
  lines : List Line
  outcome : Outcome
  path : Path (Talk.observe event.1 event.2) lines outcome
  answers : ∀ line ∈ lines, Station.Answers host depth line

namespace Call

open Talk

variable {host : Host} {depth : Nat} (c : Call host depth)

/-- Each call takes one decision. -/
theorem admitted_eq : c.lines.filterMap Line.admitted? = [decide (c.outcome ≠ .notSampled)] := by
  rcases path_observe c.path c.answers with ⟨hlines, hout⟩ | ⟨e, -, hlines, hout⟩ |
    ⟨name, count, -, hlines, hout⟩ <;> rw [hlines, hout]
  · rfl
  · rfl
  · rw [List.filterMap_append, List.filterMap_append,
      filterMap_inquiry fun _ h => (none_of_byTheWay h).1]
    rfl

/-- Each call is seen once. -/
theorem count_eventsSeen : (c.lines.filterMap Line.counter?).count .eventsSeen = 1 := by
  rcases path_observe c.path c.answers with ⟨hlines, -⟩ | ⟨e, -, hlines, -⟩ |
    ⟨name, count, -, hlines, -⟩ <;> rw [hlines]
  · rfl
  · rfl
  · rw [List.filterMap_append, List.filterMap_append, List.count_append, List.count_append,
      count_inquiry rfl]
    rfl

/-- A call is counted as sampled if its decision admitted it. -/
theorem count_eventsSampled : (c.lines.filterMap Line.counter?).count .eventsSampled =
    (c.lines.filterMap Line.admitted?).count true := by
  rw [c.admitted_eq]
  rcases path_observe c.path c.answers with ⟨hlines, hout⟩ | ⟨e, -, hlines, hout⟩ |
    ⟨name, count, -, hlines, hout⟩ <;> rw [hlines, hout]
  · rfl
  · rfl
  · rw [List.filterMap_append, List.filterMap_append, List.count_append, List.count_append,
      count_inquiry rfl]
    rfl

/-- A call is counted in the tally if it was emitted, under the name of its type. -/
theorem counted_eq : c.lines.filterMap Line.counted? =
    (host.scenario.emittedAs (c.event, c.outcome)).toList := by
  have htold := host.scenario.toOption_objectClass c.event.2
  rcases path_observe c.path c.answers with ⟨hlines, hout⟩ | ⟨e, -, hlines, hout⟩ |
    ⟨name, count, hname, hlines, hout⟩ <;> rw [hlines, hout]
  · rfl
  · rfl
  · rw [hname] at htold
    rw [List.filterMap_append, List.filterMap_append,
      filterMap_inquiry fun _ h => (none_of_byTheWay h).2.1]
    simp only [Scenario.emittedAs, ← htold]
    rfl

/-- A call sends a record for each of its counts, under the same name and count. -/
theorem payloads_eq : ∃ records : List Record,
    c.lines.filterMap Line.payload? = records.map Record.payload ∧
      c.lines.filterMap Line.counted? = records.map fun r => (r.className, r.count) := by
  rcases path_observe c.path c.answers with ⟨hlines, -⟩ | ⟨e, -, hlines, -⟩ |
    ⟨name, count, -, hlines, -⟩ <;> rw [hlines]
  · exact ⟨[], rfl, rfl⟩
  · exact ⟨[], rfl, rfl⟩
  · refine ⟨[{ recordOf host depth name c.event.1 with count := count }], ?_, ?_⟩
    · rw [List.filterMap_append, List.filterMap_append,
        filterMap_inquiry fun _ h => (none_of_byTheWay h).2.2]
      rfl
    · rw [List.filterMap_append, List.filterMap_append,
        filterMap_inquiry fun _ h => (none_of_byTheWay h).2.1, List.map_singleton,
        className_recordOf]
      rfl

/-- A call that was admitted left the lines of its event. -/
theorem eq_admission (h : c.outcome ≠ .notSampled) :
    ∃ count, c.lines = admission host depth c.event.1 c.event.2 count := by
  rcases path_observe c.path c.answers with ⟨-, hout⟩ | ⟨e, he, hlines, -⟩ |
    ⟨name, count, hname, hlines, -⟩
  · exact absurd hout h
  · exact ⟨0, by rw [hlines, admission, he]⟩
  · exact ⟨count, by rw [hlines, admission, hname]⟩

end Call

end Contention
