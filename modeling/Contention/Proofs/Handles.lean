import Contention.Proofs.Concurrency

/-!
# Handles of accepted scenarios

A host is made only for a scenario whose events all point to something.
`Scenario.dangling?_eq_none_iff` and `Scenario.dangling?_eq_some_iff` say which scenarios are
accepted, and which event a refusal reports: the **first** one that points to nothing, its thread
being looked at before its object.

From there on no handle goes astray. The handles of an event are passed to the host as they are;
the methods of a stack come from the host itself, and so do their classes. `Query.Known` says of a
single call that its handles point into the scenario, and `Query.error?_answer` that it is then not
refused for them. `Dialogue.AsksWhile` follows a dialogue as long as its answers are those of the
scenario, and `Talk.knows_observe` shows that all calls of an event are known if the event is.

The main statement is `accepted_handles_known`. It is about runs of any steps, and about callers at
the same time, who replay events in any order.
-/

namespace Contention

open Dialogue (Interleaving)

/-! ### Accepted scenarios -/

namespace Scenario

/-- The thread and the object of an event exist. -/
def Knows (s : Scenario) (e : ScriptedEvent) : Prop :=
  e.thread.toNat < s.threads.length ∧ e.object.toNat < s.objects.length

/-- What is reported of an event with the given number that points to nothing. -/
def Reports (s : Scenario) (number : Nat) (e : ScriptedEvent) (d : Dangling) : Prop :=
  (s.threads.length ≤ e.thread.toNat ∧ d = .unknownThread number e.thread) ∨
    (e.thread.toNat < s.threads.length ∧ s.objects.length ≤ e.object.toNat ∧
      d = .unknownObject number e.object)

theorem dangling?_eq_none_iff (s : Scenario) (number : Nat) (events : List ScriptedEvent) :
    s.dangling? number events = none ↔ ∀ e ∈ events, s.Knows e := by
  fun_induction dangling? s number events with
  | case1 number => simp
  | case2 number e rest ht => simp [Knows, Nat.not_lt.mpr ht]
  | case3 number e rest _ ho => simp [Knows, Nat.not_lt.mpr ho]
  | case4 number e rest ht ho ih =>
    rw [Nat.not_le] at ht ho
    simp [Knows, ht, ho, ih]

theorem dangling?_eq_some_iff (s : Scenario) (number : Nat) (events : List ScriptedEvent)
    (d : Dangling) :
    s.dangling? number events = some d ↔
      ∃ past e rest, events = past ++ e :: rest ∧ (∀ e' ∈ past, s.Knows e') ∧
        s.Reports (number + past.length) e d := by
  fun_induction dangling? s number events with
  | case1 number => simp
  | case2 number e rest ht =>
    constructor
    · intro h
      exact ⟨[], e, rest, rfl, by simp, .inl ⟨ht, (Option.some.inj h).symm⟩⟩
    · rintro ⟨_ | ⟨e', past⟩, e, rest, heq, hpast, hreports⟩
      · obtain ⟨rfl, rfl⟩ := List.cons.inj heq
        rcases hreports with ⟨-, rfl⟩ | ⟨hlt, -⟩
        · rfl
        · omega
      · -- no event before the reported one points to nothing
        obtain ⟨rfl, -⟩ := List.cons.inj heq
        have hknown := (hpast _ List.mem_cons_self).1
        omega
  | case3 number e rest ht ho =>
    constructor
    · intro h
      exact ⟨[], e, rest, rfl, by simp, .inr ⟨by omega, ho, (Option.some.inj h).symm⟩⟩
    · rintro ⟨_ | ⟨e', past⟩, e, rest, heq, hpast, hreports⟩
      · obtain ⟨rfl, rfl⟩ := List.cons.inj heq
        rcases hreports with ⟨hle, -⟩ | ⟨-, -, rfl⟩
        · exact absurd hle ht
        · rfl
      · obtain ⟨rfl, -⟩ := List.cons.inj heq
        have hknown := (hpast _ List.mem_cons_self).2
        omega
  | case4 number e rest ht ho ih =>
    rw [ih]
    constructor
    · rintro ⟨past, e', rest, rfl, hpast, hreports⟩
      refine ⟨e :: past, e', rest, rfl, ?_, ?_⟩
      · exact List.forall_mem_cons.mpr ⟨⟨by omega, by omega⟩, hpast⟩
      · rwa [List.length_cons, Nat.add_comm past.length, ← Nat.add_assoc]
    · rintro ⟨_ | ⟨e', past⟩, e'', rest', heq, hpast, hreports⟩
      · obtain ⟨rfl, rfl⟩ := List.cons.inj heq
        rcases hreports with ⟨hle, -⟩ | ⟨-, hle, -⟩
        · exact absurd hle ht
        · exact absurd hle ho
      · obtain ⟨rfl, rfl⟩ := List.cons.inj heq
        refine ⟨past, e'', rest', rfl, (List.forall_mem_cons.mp hpast).2, ?_⟩
        rwa [List.length_cons, Nat.add_comm past.length, ← Nat.add_assoc] at hreports

end Scenario

namespace Host

theorem ofScenario_eq_ok_iff (s : Scenario) (h : Host) :
    ofScenario s = .ok h ↔ h = { scenario := s } ∧ ∀ e ∈ s.events, s.Knows e := by
  rw [← s.dangling?_eq_none_iff 0, ofScenario, Scenario.validate]
  rcases s.dangling? 0 s.events with _ | d <;> simp [Except.map, eq_comm]

theorem ofScenario_eq_error_iff (s : Scenario) (d : Scenario.Dangling) :
    ofScenario s = .error d ↔
      ∃ past e rest, s.events = past ++ e :: rest ∧ (∀ e' ∈ past, s.Knows e') ∧
        s.Reports past.length e d := by
  have hfirst := s.dangling?_eq_some_iff 0 s.events d
  simp only [Nat.zero_add] at hfirst
  rw [← hfirst, ofScenario, Scenario.validate]
  rcases s.dangling? 0 s.events with _ | d <;> simp [Except.map]

end Host

/-! ### Known handles -/

/-- The failure that a call is answered with, if it is one. -/
def failure? : Except HostError α → Option HostError
  | .ok _ => none
  | .error e => some e

namespace Query

/-- The failure that a call is answered with, if it is one. -/
def error? : (q : Query) → q.Answer → Option HostError
  | .objectClass _ => failure?
  | .stackTrace .. => failure?
  | .methodName _ => failure?
  | .declaringClass _ => failure?
  | .classSignature _ => failure?
  | .threadInfo _ => failure?
  | .osThreadId _ => failure?
  | .deallocate _ => failure?

/-- The handles of a call point into the scenario. -/
def Known (s : Scenario) : Query → Prop
  | .objectClass object => object < s.objects.length
  | .stackTrace thread _ _ => thread < s.threads.length
  | .methodName m => ∃ f, (s.threads[m.thread]?.bind fun t => t.frames[m.frame]?) = some f
  | .declaringClass m => ∃ f, (s.threads[m.thread]?.bind fun t => t.frames[m.frame]?) = some f
  | .classSignature c => ∃ f, (s.threads[c.thread]?.bind fun t => t.frames[c.frame]?) = some f
  | .threadInfo thread => thread < s.threads.length
  | .osThreadId thread => thread < s.threads.length
  | .deallocate _ => True

/-- Looking up a frame that exists fails only where a failure is planted. -/
private theorem frameUnless_known {s : Scenario} {thread frame : Nat} {f : ScriptedFrame}
    (hf : (s.threads[thread]?.bind fun t => t.frames[frame]?) = some f) (call : HostCall)
    (failure : FrameFailure) :
    s.frameUnless thread frame call failure = .ok f ∨
      s.frameUnless thread frame call failure = .error (.failed call plantedCode) := by
  rw [Scenario.frameUnless, Scenario.frameOf, hf]
  by_cases hfail : f.fail = some failure
  · exact .inr (if_pos hfail)
  · exact .inl (if_neg hfail)

/-- **A call with known handles** is not refused for them. -/
theorem error?_answer {q : Query} {h : Host} (hq : q.Known h.scenario) (call : HostCall) :
    q.error? (h.answer q).1 ≠ some (.invalidHandle call) := by
  cases q with
  | objectClass object =>
    obtain ⟨o, ho⟩ : ∃ o, h.scenario.objects[object]? = some o := ⟨_, List.getElem?_eq_getElem hq⟩
    cases hfail : o.fail <;>
      simp [Host.answer, Host.objectClass, Host.serve, Scenario.objectClass, ho, hfail, error?,
        failure?]
  | stackTrace thread start most =>
    obtain ⟨t, ht⟩ : ∃ t, h.scenario.threads[thread]? = some t := ⟨_, List.getElem?_eq_getElem hq⟩
    cases hfail : t.failStackTrace <;>
      simp [Host.answer, Host.stackTrace, Host.serve, Scenario.stackTrace, Scenario.threadOf, ht,
        hfail, error?, failure?, bind, Except.bind]
  | methodName m =>
    obtain ⟨f, hf⟩ := hq
    rcases frameUnless_known hf .methodName .methodName with hok | herr <;>
      simp [Host.answer, Host.methodName, Host.serve, Scenario.methodName, *, error?, failure?,
        bind, Except.bind]
  | declaringClass m =>
    obtain ⟨f, hf⟩ := hq
    rcases frameUnless_known hf .declaringClass .declaringClass with hok | herr <;>
      simp [Host.answer, Host.declaringClass, Host.serve, Scenario.declaringClass, *, error?,
        failure?, bind, Except.bind]
  | classSignature c =>
    obtain ⟨f, hf⟩ := hq
    rcases frameUnless_known hf .classSignature .classSignature with hok | herr <;>
      simp [Host.answer, Host.classSignature, Host.serve, Scenario.classSignature, *, error?,
        failure?, bind, Except.bind]
  | threadInfo thread =>
    obtain ⟨t, ht⟩ : ∃ t, h.scenario.threads[thread]? = some t := ⟨_, List.getElem?_eq_getElem hq⟩
    cases hfail : t.failThreadInfo <;>
      simp [Host.answer, Host.threadInfo, Host.serve, Scenario.threadInfo, Scenario.threadOf, ht,
        hfail, error?, failure?, bind, Except.bind]
  | osThreadId thread =>
    obtain ⟨t, ht⟩ : ∃ t, h.scenario.threads[thread]? = some t := ⟨_, List.getElem?_eq_getElem hq⟩
    rcases hid : t.osThreadId with _ | id <;>
      simp [Host.answer, Host.osThreadId, Host.serve, Scenario.osThreadId, Scenario.threadOf, ht,
        hid, error?, failure?, bind, Except.bind]
  | deallocate b =>
    cases hl : h.conduct.leaky <;> simp [Host.answer, Host.deallocate, hl, error?, failure?]

end Query

/-! ### Handles that come from the host -/

namespace Host

/-- The methods of a stack are on it. -/
private theorem known_of_stackTrace {h : Host} {thread start most : Nat} {methods : List Method}
    (hanswer : (h.stackTrace thread start most).1 = .ok methods) :
    ∀ m ∈ methods, (Query.methodName m).Known h.scenario := by
  rcases ht : h.scenario.threads[thread]? with _ | t
  · simp [stackTrace, serve, Scenario.stackTrace, Scenario.threadOf, ht, bind, Except.bind]
      at hanswer
  rcases hfail : t.failStackTrace with _ | _
  · simp only [stackTrace, serve, Scenario.stackTrace, Scenario.threadOf, ht, hfail, bind,
      Except.bind, Bool.false_eq_true, if_false, Except.ok.injEq] at hanswer
    intro m hm
    rw [← hanswer] at hm
    obtain ⟨i, hi, rfl⟩ := List.mem_map.mp hm
    have hlt : i < t.frames.length := by
      simp only [Scenario.window, List.mem_range'_1] at hi
      omega
    exact ⟨t.frames[i], by simp [ht, hlt]⟩
  · simp [stackTrace, serve, Scenario.stackTrace, Scenario.threadOf, ht, hfail, bind, Except.bind]
      at hanswer

/-- The class of a method is where the method is. -/
private theorem known_of_declaringClass {h : Host} {m : Method} {c : DeclaringClass}
    (hm : (Query.methodName m).Known h.scenario) (hanswer : (h.declaringClass m).1 = .ok c) :
    (Query.classSignature c).Known h.scenario := by
  obtain ⟨f, hf⟩ := hm
  rcases Query.frameUnless_known hf .declaringClass .declaringClass with hok | herr
  · simp only [declaringClass, serve, Scenario.declaringClass, hok, bind, Except.bind,
      Except.ok.injEq] at hanswer
    rw [← hanswer]
    exact ⟨f, hf⟩
  · simp [declaringClass, serve, Scenario.declaringClass, herr, bind, Except.bind] at hanswer

end Host

/-! ### Dialogues with one scenario -/

namespace Dialogue

variable {Q : Type} {A : Q → Type} {α β σ : Type}

/-- As long as the answers obey `R`, all questions are of a certain kind. -/
def AsksWhile (R : (q : Q) → A q → Prop) (P : Q → Prop) : Dialogue Q A α → Prop
  | .done _ => True
  | .ask q next => P q ∧ ∀ answer, R q answer → (next answer).AsksWhile R P

variable {R : (q : Q) → A q → Prop} {P : Q → Prop}

theorem AsksWhile.bind {d : Dialogue Q A α} {f : α → Dialogue Q A β} (hd : d.AsksWhile R P)
    (hf : ∀ a, (f a).AsksWhile R P) : (d >>= f).AsksWhile R P := by
  induction d with
  | done a => exact hf a
  | ask q next ih => exact ⟨hd.1, fun answer hanswer => ih answer (hd.2 answer hanswer)⟩

/-- **Turn by turn** the questions are of their kind, if the answers obey `R` as long as the state
is of its own kind, and it stays so. -/
theorem Interleaving.asks {answer : σ → (q : Q) → A q × σ} {I : σ → Prop}
    (hstep : ∀ s q, I s → R q (answer s q).1 ∧ I (answer s q).2)
    {ds : List (Dialogue Q A α)} {s last : σ} {lines : List ((q : Q) × A q)} {results : List α}
    (h : Interleaving answer ds s lines results last) (hs : I s) (hds : ∀ d ∈ ds, d.AsksWhile R P) :
    ∀ line ∈ lines, P line.1 ∧ R line.1 line.2 := by
  induction h with
  | done results s => simp
  | turn left right q next s _ ih =>
    obtain ⟨hq, hnext⟩ : Dialogue.AsksWhile R P (.ask q next) := hds _ (by simp)
    obtain ⟨hanswer, hafter⟩ := hstep s q hs
    refine List.forall_mem_cons.mpr ⟨⟨hq, hanswer⟩, ih hafter fun d hd => ?_⟩
    -- only the dialogue whose turn it was has changed
    rcases List.mem_append.mp hd with hleft | hright
    · exact hds d (List.mem_append_left _ hleft)
    · rcases List.mem_cons.mp hright with rfl | hright
      · exact hnext _ hanswer
      · exact hds d (List.mem_append_right _ (List.mem_cons_of_mem _ hright))

end Dialogue

namespace Talk

variable {s : Scenario}

/-- An answer to an action that a host over the scenario may give. -/
def Answered (s : Scenario) : (a : Action) → a.Answer → Prop
  | .call q, answer => ∃ h : Host, h.scenario = s ∧ answer = (h.answer q).1
  | _, _ => True

/-- An action that, if it is a call, has known handles. -/
def Known (s : Scenario) : Action → Prop
  | .call q => q.Known s
  | _ => True

/-- All calls of a dialogue over the scenario have known handles. -/
def KnowsHandles (s : Scenario) (d : Talk α) : Prop := d.AsksWhile (Answered s) (Known s)

private theorem knows_pure (a : α) : KnowsHandles s (pure a : Talk α) := trivial

private theorem knows_request {a : Action} (ha : Known s a) :
    KnowsHandles s (Dialogue.request a : Talk a.Answer) := ⟨ha, fun _ _ => trivial⟩

private theorem knows_call {q : Query} {f : q.Answer → Talk α} (hq : q.Known s)
    (hf : ∀ h : Host, h.scenario = s → KnowsHandles s (f (h.answer q).1)) :
    KnowsHandles s (call q >>= f) := by
  refine ⟨hq, ?_⟩
  rintro _ ⟨h, hs, rfl⟩
  exact hf h hs

private theorem knows_bumpIf (condition : Bool) (c : Counter) :
    KnowsHandles s (bumpIf condition c) := by
  cases condition
  · exact knows_pure ()
  · exact knows_request (a := .bump c) trivial

private theorem knows_release (b : Buffer) : KnowsHandles s (release b) := by
  refine knows_call (q := .deallocate b) trivial fun h _ => ?_
  split
  · exact knows_pure ()
  · exact knows_request (a := .log _) trivial

private theorem knows_finish (buffers : List Buffer) (result : α) :
    KnowsHandles s (finish buffers result) := by
  refine Dialogue.AsksWhile.bind ?_ fun _ => knows_pure result
  induction buffers with
  | nil => exact knows_pure ()
  | cons b rest ih => exact (knows_release b).bind fun _ => ih

private theorem knows_resolve {m : Method} (hm : (Query.methodName m).Known s) :
    KnowsHandles s (resolve m) := by
  refine knows_call hm fun h hs => ?_
  split
  · exact knows_pure _
  refine knows_call (q := .declaringClass m) hm fun h' hs' => ?_
  split
  · exact knows_finish _ _
  · next c hc =>
    have hknown : (Query.classSignature c).Known s := by
      rw [← hs'] at hm ⊢
      exact Host.known_of_declaringClass hm hc
    refine knows_call hknown fun _ _ => ?_
    split <;> exact knows_finish _ _

private theorem knows_resolveAll {ms : List Method} (hms : ∀ m ∈ ms, (Query.methodName m).Known s) :
    KnowsHandles s (resolveAll ms) := by
  induction ms with
  | nil => exact knows_pure _
  | cons m rest ih =>
    obtain ⟨hm, hrest⟩ := List.forall_mem_cons.mp hms
    refine (knows_resolve hm).bind fun r => ?_
    split
    · exact knows_pure _
    · exact (ih hrest).bind fun _ => knows_pure _

private theorem knows_describe {ms : List Method} (hms : ∀ m ∈ ms, (Query.methodName m).Known s) :
    KnowsHandles s (describe ms) := by
  refine (knows_resolveAll hms).bind fun resolved => ?_
  rcases resolved with ⟨frames, _ | e⟩
  · exact knows_pure _
  · exact (knows_request (a := .log _) trivial).bind fun _ => knows_pure _

/-- The methods that a capture resolves are among those that the host handed out. -/
private theorem knows_capture {thread : Nat} (ht : thread < s.threads.length) (depth : Nat) :
    KnowsHandles s (capture thread depth) := by
  rw [capture]
  split
  · exact knows_pure _
  refine knows_call (q := .stackTrace thread 0 (min depth maxDepth)) ht fun h hs => ?_
  split
  · exact (knows_request (a := .log _) trivial).bind fun _ => knows_pure _
  · exact knows_pure _
  · next methods _ hmethods =>
    refine knows_describe fun m hm => ?_
    rw [← hs]
    exact Host.known_of_stackTrace hmethods m (List.mem_of_mem_take hm)

private theorem knows_findStack {thread : Nat} (ht : thread < s.threads.length) (depth : Nat) :
    KnowsHandles s (findStack depth thread) := by
  rw [findStack]
  split
  · exact knows_pure _
  · exact (knows_capture ht depth).bind fun _ =>
      (knows_request (a := .bump _) trivial).bind fun _ => (knows_bumpIf _ _).bind fun _ =>
      (knows_bumpIf _ _).bind fun _ => (knows_bumpIf _ _).bind fun _ => knows_pure _

/-- What is done about a part of a record that cannot be found. -/
private theorem knows_softFailure (e : Log.Entry) :
    KnowsHandles s (do log e; bump .softFailures; pure (none : Option α)) :=
  (knows_request (a := .log e) trivial).bind fun _ =>
    (knows_request (a := .bump _) trivial).bind fun _ => knows_pure _

private theorem knows_findThreadName {thread : Nat} (ht : thread < s.threads.length) :
    KnowsHandles s (findThreadName thread) := by
  refine knows_call (q := .threadInfo thread) ht fun h hs => ?_
  split
  · exact knows_softFailure _
  · exact knows_finish _ _

private theorem knows_findOsThreadId {thread : Nat} (ht : thread < s.threads.length) :
    KnowsHandles s (findOsThreadId thread) := by
  refine knows_call (q := .osThreadId thread) ht fun h hs => ?_
  split
  · exact knows_softFailure _
  · exact knows_pure _

private theorem knows_emit (name : String) (count : UInt64) {thread : Nat}
    (ht : thread < s.threads.length) : KnowsHandles s (emit name count thread) :=
  (knows_request (a := .depth) trivial).bind fun depth =>
    (knows_findStack ht depth).bind fun _ => (knows_findThreadName ht).bind fun _ =>
    (knows_findOsThreadId ht).bind fun _ => (knows_request (a := .send _) trivial).bind fun _ =>
    (knows_request (a := .bump _) trivial).bind fun _ => knows_pure _

/-- **All calls of an event** have known handles, if its thread and its object exist. -/
theorem knows_observe {thread object : Nat} (ht : thread < s.threads.length)
    (ho : object < s.objects.length) : KnowsHandles s (observe thread object) := by
  refine (knows_request (a := .bump _) trivial).bind fun _ => ?_
  refine (knows_request (a := .decide) trivial).bind fun admitted => ?_
  split
  · exact knows_pure _
  refine (knows_request (a := .bump _) trivial).bind fun _ => ?_
  refine knows_call (q := .objectClass object) ho fun h hs => ?_
  split
  · exact (knows_request (a := .log _) trivial).bind fun _ =>
      (knows_request (a := .bump _) trivial).bind fun _ => knows_pure _
  · exact (knows_request (a := .count _) trivial).bind fun count => knows_emit _ count ht

private theorem knows_observeAll {events : List (Nat × Nat)}
    (h : ∀ e ∈ events, e.1 < s.threads.length ∧ e.2 < s.objects.length) :
    KnowsHandles s (observeAll events) := by
  induction events with
  | nil => exact knows_pure _
  | cons event rest ih =>
    obtain ⟨⟨ht, ho⟩, hrest⟩ := List.forall_mem_cons.mp h
    exact (knows_observe ht ho).bind fun _ => (ih hrest).bind fun _ => knows_pure _

end Talk

/-! ### Runs -/

/-- A call that is refused because the host does not know a handle. -/
def Line.Stale (line : Line) : Prop :=
  ∃ q answer call, line = ⟨.call q, answer⟩ ∧ q.error? answer = some (.invalidHandle call)

/-- Dialogues that know their handles, held in turns with a station over the scenario, make no stale
call. -/
private theorem Talk.not_stale {s : Scenario} {ds : List (Talk α)} {st last : Station}
    {lines : List Line} {results : List α}
    (h : Interleaving Station.perform ds st lines results last)
    (hst : st.monitor.host.scenario = s) (hds : ∀ d ∈ ds, KnowsHandles s d) :
    ∀ line ∈ lines, ¬ line.Stale := by
  have hstep : ∀ (st : Station) (a : Action), st.monitor.host.scenario = s →
      Answered s a (st.perform a).1 ∧ (st.perform a).2.monitor.host.scenario = s := by
    intro st a hst
    refine ⟨?_, (st.scenario_perform a).trans hst⟩
    cases a with
    | call q => exact ⟨st.monitor.host, hst, rfl⟩
    | _ => trivial
  rintro ⟨a, answer⟩ hline ⟨q, answer', call, heq, hfailed⟩
  obtain ⟨hknown, hanswer⟩ := h.asks hstep hst hds _ hline
  obtain ⟨rfl, hanswers⟩ := Sigma.mk.inj heq
  obtain rfl := eq_of_heq hanswers
  obtain ⟨host, rfl, rfl⟩ := hanswer
  exact Query.error?_answer hknown call hfailed

/-- No step makes a stale call, if its event has a thread and an object that exist. -/
private theorem Station.not_stale_step {st : Station} {step : Step}
    (hstep : ∀ thread object, step = .event thread object →
      thread < st.monitor.host.scenario.threads.length ∧
        object < st.monitor.host.scenario.objects.length) :
    ∀ line ∈ st.stepTranscript step, ¬ Line.Stale line := by
  cases step with
  | control change => simp [stepTranscript]
  | close => simp [stepTranscript]
  | event thread object =>
    obtain ⟨ht, ho⟩ := hstep thread object rfl
    have halone := Interleaving.alone Station.perform (Talk.observe thread object) st
    exact Talk.not_stale halone rfl (by simpa using Talk.knows_observe ht ho)

private theorem Station.scenario_step (st : Station) (step : Step) :
    (st.step step).2.monitor.host.scenario = st.monitor.host.scenario := by
  cases step with
  | control change => rfl
  | close => rfl
  | event thread object =>
    exact (congrArg (·.host.scenario) (st.observe_monitor thread object).2.1).trans
      (st.monitor.observe_spec thread object).1

/-- No run makes a stale call, if its events have threads and objects that exist. -/
theorem Station.not_stale_transcript {st : Station} {steps : List Step}
    (hsteps : ∀ thread object, .event thread object ∈ steps →
      thread < st.monitor.host.scenario.threads.length ∧
        object < st.monitor.host.scenario.objects.length) :
    ∀ line ∈ st.transcript steps, ¬ Line.Stale line := by
  induction steps generalizing st with
  | nil => simp [transcript]
  | cons first rest ih =>
    intro line hline
    rcases List.mem_append.mp hline with hfirst | hlater
    · exact not_stale_step (fun thread object h => hsteps thread object (by simp [h])) line hfirst
    · refine ih (fun thread object h => ?_) line hlater
      rw [st.scenario_step first]
      exact hsteps thread object (List.mem_cons_of_mem _ h)

/-! ### The main statement -/

/-- The events of an accepted host have threads and objects that exist. -/
private theorem Host.lt_of_mem_events {s : Scenario} (hs : ∀ e ∈ s.events, s.Knows e)
    {thread object : Nat} (h : (thread, object) ∈ Host.events { scenario := s }) :
    thread < s.threads.length ∧ object < s.objects.length := by
  obtain ⟨e, he, heq⟩ := List.mem_map.mp h
  obtain ⟨rfl, rfl⟩ := Prod.mk.inj heq
  exact hs e he

/-- **Accepted scenarios have no dangling handles.** A scenario is accepted if and only if the
thread and the object of each of its events exist; otherwise the first event of which this is not so
is reported, for its thread if that does not exist, and for its object if the thread does. Let a
monitor with any sampling, tally and metrics watch the host of an accepted scenario. Whatever steps
it takes, with events of the scenario in any order and any number and with changes of the sampling
between them, and whatever callers observe such events at the same time, no call to the host is ever
refused because of a handle. The transcript of an event is what the station does. -/
theorem accepted_handles_known (s : Scenario) :
    ((∃ h, Host.ofScenario s = .ok h) ↔
      ∀ e ∈ s.events, e.thread.toNat < s.threads.length ∧ e.object.toNat < s.objects.length) ∧
    (∀ d, Host.ofScenario s = .error d ↔
      ∃ past e rest, s.events = past ++ e :: rest ∧
        (∀ e' ∈ past,
          e'.thread.toNat < s.threads.length ∧ e'.object.toNat < s.objects.length) ∧
        ((s.threads.length ≤ e.thread.toNat ∧ d = .unknownThread past.length e.thread) ∨
          (e.thread.toNat < s.threads.length ∧ s.objects.length ≤ e.object.toNat ∧
            d = .unknownObject past.length e.object))) ∧
    ∀ host, Host.ofScenario s = .ok host → ∀ start : Station, start.monitor.host = host →
      (∀ steps : List Station.Step,
        (∀ thread object, .event thread object ∈ steps → (thread, object) ∈ host.events) →
        ∀ line ∈ start.transcript steps, ¬ Line.Stale line) ∧
      (∀ (callers : List (List (Nat × Nat))) (lines : List Line) (outcomes : List (List Outcome))
        (last : Station), (∀ events ∈ callers, ∀ e ∈ events, e ∈ host.events) →
        Interleaving Station.perform (callers.map Talk.observeAll) start lines outcomes last →
        ∀ line ∈ lines, ¬ Line.Stale line) ∧
      ∀ (st : Station) (thread object : Nat),
        (Talk.observe thread object).run Station.perform st = st.observe thread object := by
  refine ⟨?_, Host.ofScenario_eq_error_iff s, ?_⟩
  · constructor
    · rintro ⟨h, hh⟩
      exact ((Host.ofScenario_eq_ok_iff s h).mp hh).2
    · intro hknown
      exact ⟨_, (Host.ofScenario_eq_ok_iff s _).mpr ⟨rfl, hknown⟩⟩
  · intro host hhost start hstart
    obtain ⟨rfl, hknown⟩ := (Host.ofScenario_eq_ok_iff s host).mp hhost
    have hscenario : start.monitor.host.scenario = s := by rw [hstart]
    refine ⟨fun steps hsteps => ?_, fun callers lines outcomes last hcallers hturns => ?_,
      fun st thread object => Talk.run_observe st thread object⟩
    · refine Station.not_stale_transcript fun thread object h => ?_
      rw [hscenario]
      exact Host.lt_of_mem_events hknown (hsteps thread object h)
    · refine Talk.not_stale hturns hscenario fun d hd => ?_
      obtain ⟨events, hevents, rfl⟩ := List.mem_map.mp hd
      exact Talk.knows_observeAll fun e he =>
        Host.lt_of_mem_events hknown (hcallers events hevents e he)

/-- Two frames, of which the second one fails, and two events of one thread. -/
def twoEvents : Scenario where
  objects := [⟨"Lock", false⟩]
  threads :=
    [{ name := "main"
       frames :=
         [⟨"LMain;", "run", "()V", none⟩, ⟨"LMain;", "main", "()V", some .classSignature⟩] }]
  events := [⟨0, 0⟩, ⟨0, 0⟩]

/-- The scenario is accepted. Its events make no stale call, be they observed one after the other or
at the same time, while an event of another thread does. With an event that points to neither a
thread nor an object before another one, it is refused for the thread of the first. -/
theorem accepted_handles_known_twoEvents :
    let start : Station := { monitor := { host := { scenario := twoEvents } }, sink := .closure [] }
    let steps : List Station.Step := [.event 0 0, .control (.depth 5), .event 0 0]
    let callers := [[(0, 0)], [(0, 0)]]
    let held := Dialogue.schedule Station.perform overtaking (callers.map Talk.observeAll) start
    Host.ofScenario twoEvents = .ok { scenario := twoEvents } ∧
      ((start.transcript steps).length = 43 ∧
        ∀ line ∈ start.transcript steps, ¬ Line.Stale line) ∧
      (Dialogue.results? held.2.1 = some [[.emitted 2], [.emitted 1]] ∧
        ∀ line ∈ held.1, ¬ Line.Stale line) ∧
      (∃ line ∈ start.transcript [.event 7 0], Line.Stale line) ∧
      Host.ofScenario { twoEvents with events := [⟨0, 0⟩, ⟨1, 9⟩, ⟨0, 7⟩] } =
        .error (.unknownThread 1 1) := by
  intro start steps callers held
  have hok : Host.ofScenario twoEvents = .ok { scenario := twoEvents } := by decide
  have hdone : Dialogue.results? held.2.1 = some [[.emitted 2], [.emitted 1]] := by decide +kernel
  obtain ⟨-, -, haccepted⟩ := accepted_handles_known twoEvents
  obtain ⟨-, hrefused, -⟩ :=
    accepted_handles_known { twoEvents with events := [⟨0, 0⟩, ⟨1, 9⟩, ⟨0, 7⟩] }
  obtain ⟨hsteps, hcallers, -⟩ := haccepted _ hok start rfl
  refine ⟨hok, ⟨by decide, hsteps steps ?_⟩, ⟨hdone, ?_⟩, ?_, ?_⟩
  · intro thread object h
    simp only [steps, List.mem_cons, Station.Step.event.injEq, reduceCtorEq, List.not_mem_nil,
      or_false, false_or, or_self] at h
    obtain ⟨rfl, rfl⟩ := h
    decide
  · exact hcallers callers held.1 _ held.2.2 (by decide) (Interleaving.of_schedule hdone)
  · -- the call for the name of the thread comes seventh
    have hline : (start.transcript [.event 7 0])[6]? =
        some ⟨.call (.threadInfo 7), .error (.invalidHandle .threadInfo)⟩ := rfl
    exact ⟨_, List.mem_of_getElem? hline, .threadInfo 7, _, .threadInfo, rfl, rfl⟩
  · exact (hrefused _).mpr ⟨[⟨0, 0⟩], ⟨1, 9⟩, [⟨0, 7⟩], rfl, by decide, .inl ⟨by decide, rfl⟩⟩

end Contention
