import Contention.Proofs.Buffers
import Contention.Proofs.Sampling
import Contention.Proofs.Station
import Contention.Proofs.Tally

/-!
# What a trace tells about a station

A trace is a list of actions with their answers, whoever performed them. The actions on one part of
a station are picked out of it by `Line.admitted?`, `Line.counter?`, `Line.counted?`, `Line.query?`
and `Line.payload?`, and each part of the station can be told from what is picked out for it.
`Station.Follows` says how; `Follows.perform` is its step: it is kept by every action.

The order of the actions matters to the **answers** of decisions and counts and to the sink. It does
not matter to metrics, tally, calls and buffers, so that traces with the same lines in another order
agree on these.
-/

namespace Contention

open Log (Entry)

/-- An action with its answer. -/
abbrev Line := (a : Action) × a.Answer

namespace Line

/-- The answer to a decision. -/
def admitted? : Line → Option Bool
  | ⟨.decide, admitted⟩ => some admitted
  | _ => none

/-- The counter that is raised. -/
def counter? : Line → Option Counter
  | ⟨.bump counter, _⟩ => some counter
  | _ => none

/-- The name under which an event is counted, and its count. -/
def counted? : Line → Option (String × UInt64)
  | ⟨.count name, count⟩ => some (name, count)
  | _ => none

/-- The call that the host serves. Handing buffers back does not count as such. -/
def query? : Line → Option Query
  | ⟨.call (.deallocate _), _⟩ => none
  | ⟨.call query, _⟩ => some query
  | _ => none

/-- The payload that is handed to the sink. -/
def payload? : Line → Option String
  | ⟨.send payload, _⟩ => some payload
  | _ => none

end Line

/-! ### Counters -/

/-- The value of a counter. -/
def Metrics.counter (m : Metrics) : Counter → UInt64
  | .eventsSeen => m.eventsSeen
  | .eventsSampled => m.eventsSampled
  | .unresolvedObjects => m.unresolvedObjects
  | .recordsEmitted => m.recordsEmitted
  | .stacksAttempted => m.stacksAttempted
  | .stacksCaptured => m.stacksCaptured
  | .stacksTruncated => m.stacksTruncated
  | .softFailures => m.softFailures

private theorem Metrics.counter_bump (m : Metrics) (raised c : Counter) :
    (m.bump raised).counter c = m.counter c + if raised = c then 1 else 0 := by
  cases raised <;> cases c <;>
    simp [bump, counter, event, sampled, unresolved, emitted, softFailure]

/-- A counter holds how often it was raised. -/
theorem Metrics.counter_foldl_bump (m : Metrics) (raised : List Counter) (c : Counter) :
    (raised.foldl bump m).counter c = m.counter c + .ofNat (raised.count c) := by
  induction raised generalizing m with
  | nil => simp
  | cons first rest ih =>
    rw [List.foldl_cons, ih, counter_bump, List.count_cons, UInt64.ofNat_add, UInt64.add_assoc]
    by_cases hf : first = c
    · simp [hf, UInt64.add_comm 1]
    · simp [hf]

instance : RightCommutative Metrics.bump where
  right_comm m a b := by cases a <;> cases b <;> rfl

/-! ### Ledgers -/

/-- It does not matter to the ledger in which order buffers are lent and handed back. -/
instance : RightCommutative fun (l : Ledger) (line : Line) =>
    Ledger.custody.enter l line.1 line.2 where
  right_comm := by
    have hadd : ∀ (a : Action) (answer : a.Answer), ∃ lent returned, ∀ l : Ledger,
        Ledger.custody.enter l a answer = ⟨l.lent + lent, l.returned + returned⟩ := by
      intro a answer
      cases a with
      | call q => exact ⟨q.lent answer, q.returned, fun _ => rfl⟩
      | _ => exact ⟨0, 0, fun l => by rw [add_zero, add_zero]; rfl⟩
    intro l line line'
    obtain ⟨lent, returned, h⟩ := hadd line.1 line.2
    obtain ⟨lent', returned', h'⟩ := hadd line'.1 line'.2
    rw [h, h', h', h, add_right_comm, add_right_comm l.returned]

/-! ### Hosts -/

namespace Host

private theorem scenario_answer (h : Host) (q : Query) : (h.answer q).2.scenario = h.scenario := by
  cases q with
  | deallocate b => simp only [answer, deallocate]; split <;> rfl
  | _ => rfl

/-- Answers depend on the scenario and the conduct alone. -/
private theorem answer_congr {h h' : Host} (hscenario : h.scenario = h'.scenario)
    (hconduct : h.conduct = h'.conduct) (q : Query) : (h.answer q).1 = (h'.answer q).1 := by
  cases q with
  | deallocate b =>
    simp only [answer, deallocate, hconduct]
    split <;> rfl
  | stackTrace thread start most => simp only [answer, stackTrace, serve, hscenario, hconduct]; rfl
  | _ =>
    simp only [answer, objectClass, methodName, declaringClass, classSignature, threadInfo,
      osThreadId, serve, hscenario]
    rfl

/-- Each call counts, those that hand buffers back excepted. -/
private theorem calls_answer (h : Host) (q : Query) :
    (h.answer q).2.calls = h.calls +
      .ofNat ([(⟨.call q, (h.answer q).1⟩ : Line)].filterMap Line.query?).length := by
  cases q with
  | deallocate b =>
    have hcalls : (h.answer (.deallocate b)).2.calls = h.calls := by
      simp only [answer, deallocate]
      split <;> rfl
    exact hcalls.trans (UInt64.add_zero _).symm
  | _ => rfl

end Host

/-! ### Sampling, tallies and sinks -/

private theorem Sampling.next_after (s : Sampling) (n : Nat) :
    (s.after n).next.2 = s.after (n + 1) := by
  simp only [next, after, UInt64.ofNat_add, UInt64.add_assoc]
  rfl

/-- The counts that were given under a name. -/
def Tally.countsOf (name : String) (counted : List (String × UInt64)) : List UInt64 :=
  counted.filterMap fun c => if c.1 = name then some c.2 else none

theorem Tally.length_countsOf (name : String) (counted : List (String × UInt64)) :
    (countsOf name counted).length = (counted.map Prod.fst).count name := by
  induction counted with
  | nil => rfl
  | cons c rest ih =>
    by_cases hc : c.1 = name
    · simpa [countsOf, hc] using ih
    · simpa [countsOf, hc] using ih

/-! ### Stations -/

/-- Whether an answer may depend on what was done before. -/
def Action.steady : Action → Bool
  | .decide => false
  | .count _ => false
  | _ => true

namespace Station

/-- How an action is answered if nothing that was done before matters. Decisions and counts are not
answered this way; what is said about them here does not matter. -/
def reply (host : Host) (depth : Nat) : (a : Action) → a.Answer
  | .decide => true
  | .depth => depth
  | .bump _ => ()
  | .call query => (host.answer query).1
  | .count _ => (0 : UInt64)
  | .send _ => ()
  | .log _ => ()

/-- A line with the answer of this host and this depth, unless its answer may depend on what was
done before. -/
def Answers (host : Host) (depth : Nat) (line : Line) : Prop :=
  line.1.steady = true → line.2 = reply host depth line.1

section Perform

variable (s : Station) (a : Action)

theorem scenario_perform :
    (s.perform a).2.monitor.host.scenario = s.monitor.host.scenario := by
  cases a with
  | call q => exact s.monitor.host.scenario_answer q
  | _ => rfl

theorem conduct_perform : (s.perform a).2.monitor.host.conduct = s.monitor.host.conduct := by
  cases a with
  | call q => exact s.monitor.host.conduct_answer q
  | _ => rfl

private theorem calls_perform :
    (s.perform a).2.monitor.host.calls = s.monitor.host.calls +
      .ofNat ([(⟨a, (s.perform a).1⟩ : Line)].filterMap Line.query?).length := by
  cases a with
  | call q => exact s.monitor.host.calls_answer q
  | _ => exact (UInt64.add_zero _).symm

theorem metrics_perform :
    (s.perform a).2.monitor.metrics =
      ([(⟨a, (s.perform a).1⟩ : Line)].filterMap Line.counter?).foldl Metrics.bump
        s.monitor.metrics := by
  cases a <;> rfl

/-- Only a decision touches the sampling. -/
private theorem sampling_perform :
    (Line.admitted? ⟨a, (s.perform a).1⟩ = none ∧
        (s.perform a).2.monitor.sampling = s.monitor.sampling) ∨
      (Line.admitted? ⟨a, (s.perform a).1⟩ = some s.monitor.sampling.admits ∧
        (s.perform a).2.monitor.sampling = s.monitor.sampling.next.2) := by
  cases a with
  | decide => exact .inr ⟨rfl, rfl⟩
  | _ => exact .inl ⟨rfl, rfl⟩

/-- Only a count touches the tally. -/
private theorem tally_perform :
    (Line.counted? ⟨a, (s.perform a).1⟩ = none ∧
        (s.perform a).2.monitor.tally = s.monitor.tally) ∨
      ∃ name, Line.counted? ⟨a, (s.perform a).1⟩ = some (name, s.monitor.tally.get name + 1) ∧
        (s.perform a).2.monitor.tally = (s.monitor.tally.record name).2 := by
  cases a with
  | count name =>
    have hcount : (s.monitor.tally.record name).1 = s.monitor.tally.get name + 1 := by
      have hget := s.monitor.tally.get_record name name
      rwa [if_pos rfl] at hget
    exact .inr ⟨name, congrArg (fun c => some (name, c)) hcount, rfl⟩
  | _ => exact .inl ⟨rfl, rfl⟩

theorem sink_perform :
    (s.perform a).2.sink =
      s.sink.sendAll ([(⟨a, (s.perform a).1⟩ : Line)].filterMap Line.payload?) := by
  cases a <;> rfl

/-- A steady answer depends on the scenario, the conduct and the depth alone. -/
private theorem perform_steady {host : Host} (hscenario : s.monitor.host.scenario = host.scenario)
    (hconduct : s.monitor.host.conduct = host.conduct) {a : Action} (ha : a.steady = true) :
    (s.perform a).1 = reply host s.monitor.sampling.depth a := by
  cases a with
  | decide => cases ha
  | count name => cases ha
  | call q => exact Host.answer_congr hscenario hconduct q
  | _ => rfl

end Perform

/-- **A station and the trace that led to it** from another one. -/
structure Follows (first s : Station) (past : List Line) : Prop where
  scenario : s.monitor.host.scenario = first.monitor.host.scenario
  conduct : s.monitor.host.conduct = first.monitor.host.conduct
  calls : s.monitor.host.calls =
    first.monitor.host.calls + .ofNat (past.filterMap Line.query?).length
  sampling : s.monitor.sampling =
    first.monitor.sampling.after (past.filterMap Line.admitted?).length
  metrics : s.monitor.metrics =
    (past.filterMap Line.counter?).foldl Metrics.bump first.monitor.metrics
  tally : s.monitor.tally =
    first.monitor.tally.recordAll ((past.filterMap Line.counted?).map Prod.fst)
  sink : s.sink = first.sink.sendAll (past.filterMap Line.payload?)
  /-- Decisions are answered in the order in which they are taken. -/
  admitted : past.filterMap Line.admitted? =
    (List.range (past.filterMap Line.admitted?).length).map fun k =>
      (first.monitor.sampling.after k).admits
  /-- So are counts, for each name. -/
  counted : ∀ name, Tally.countsOf name (past.filterMap Line.counted?) =
    (List.range (Tally.countsOf name (past.filterMap Line.counted?)).length).map fun k =>
      first.monitor.tally.get name + .ofNat (k + 1)
  answers : ∀ line ∈ past, Answers first.monitor.host first.monitor.sampling.depth line

theorem Follows.refl (s : Station) : Follows s s [] := by
  constructor <;> simp [Sink.sendAll, Tally.countsOf]

/-- One more answer in a row of answers that depend on their position. -/
private theorem answers_concat {answers : List α} {f : Nat → α}
    (h : answers = (List.range answers.length).map f) {answer : α}
    (hf : answer = f answers.length) :
    answers ++ [answer] = (List.range (answers ++ [answer]).length).map f := by
  rw [List.length_append, List.length_singleton, List.range_succ, List.map_append, ← h,
    List.map_singleton, ← hf]

/-- **One action.** -/
theorem Follows.perform {first s : Station} {past : List Line} (h : Follows first s past)
    (a : Action) : Follows first (s.perform a).2 (past ++ [⟨a, (s.perform a).1⟩]) where
  scenario := by rw [scenario_perform, h.scenario]
  conduct := by rw [conduct_perform, h.conduct]
  calls := by
    rw [calls_perform, h.calls, List.filterMap_append, List.length_append, UInt64.ofNat_add,
      UInt64.add_assoc]
  sampling := by
    rcases s.sampling_perform a with ⟨hline, hkept⟩ | ⟨hline, hnext⟩
    · rw [hkept, h.sampling]
      simp [hline]
    · rw [hnext, h.sampling, Sampling.next_after]
      simp [hline]
  metrics := by rw [metrics_perform, h.metrics, List.filterMap_append, List.foldl_append]
  tally := by
    rcases s.tally_perform a with ⟨hline, hkept⟩ | ⟨name, hline, hnext⟩
    · rw [hkept, h.tally]
      simp [hline]
    · rw [hnext, h.tally]
      simp [hline, Tally.recordAll]
  sink := by
    rw [sink_perform, h.sink, List.filterMap_append]
    exact List.foldl_append.symm
  admitted := by
    rcases s.sampling_perform a with ⟨hline, -⟩ | ⟨hline, -⟩
    · simpa [hline] using h.admitted
    · have hsplit : (past ++ [(⟨a, (s.perform a).1⟩ : Line)]).filterMap Line.admitted? =
          past.filterMap Line.admitted? ++ [s.monitor.sampling.admits] := by simp [hline]
      rw [hsplit]
      exact answers_concat h.admitted (by rw [h.sampling])
  counted := by
    intro name
    rcases s.tally_perform a with ⟨hline, -⟩ | ⟨counted, hline, -⟩
    · simpa [hline] using h.counted name
    by_cases hname : counted = name
    · subst hname
      have hsplit : Tally.countsOf counted
            ((past ++ [(⟨a, (s.perform a).1⟩ : Line)]).filterMap Line.counted?) =
          Tally.countsOf counted (past.filterMap Line.counted?) ++
            [s.monitor.tally.get counted + 1] := by simp [Tally.countsOf, hline]
      rw [hsplit]
      refine answers_concat (h.counted counted) ?_
      rw [h.tally, Tally.get_recordAll, Tally.length_countsOf, UInt64.ofNat_add, UInt64.add_assoc]
      rfl
    · have hsame : Tally.countsOf name
            ((past ++ [(⟨a, (s.perform a).1⟩ : Line)]).filterMap Line.counted?) =
          Tally.countsOf name (past.filterMap Line.counted?) := by
        simp [Tally.countsOf, hline, hname]
      rw [hsame]
      exact h.counted name
  answers := by
    intro line hline
    rcases List.mem_append.mp hline with hpast | hlast
    · exact h.answers line hpast
    · intro hsteady
      obtain rfl := List.mem_singleton.mp hlast
      have hdepth : s.monitor.sampling.depth = first.monitor.sampling.depth := by
        rw [h.sampling, Sampling.after]
      rw [← hdepth]
      exact s.perform_steady h.scenario h.conduct hsteady

end Station

end Contention
