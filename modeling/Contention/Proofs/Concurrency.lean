import Mathlib.Data.Set.List
import Contention.Proofs.Call
import Contention.Proofs.Reference

/-!
# Callers at the same time

Each of several callers observes a list of events, one after the other, and all of them do so on the
same station. Their actions are interleaved in some order, of which nothing is known.

`calls_of_interleaving` makes this a matter of counting: the trace is `MadeOf` the calls for the
events, in another order, and it is what the station at the end follows from. Now **one** side knows
about the calls, each of which has its lines, whatever the others did in between; and the **other**
side knows in which order decisions were taken and counts given. `interleaved_calls_conserved` is
the main statement.

For a rate of one, two interleavings are compared through their events (`agree_of_perm`), and one
caller alone is an interleaving too (`Talk.interleaving_run`).
-/

namespace Contention

open Dialogue

/-! ### Events one after the other -/

/-- Observe events one after the other. -/
def Talk.observeAll : List (Nat × Nat) → Talk (List Outcome)
  | [] => pure []
  | event :: rest => do
    let outcome ← observe event.1 event.2
    let later ← observeAll rest
    pure (outcome :: later)

/-- A station that is held alone with such a dialogue observes the events one after the other. -/
private theorem Talk.run_observeAll (events : List (Nat × Nat)) (s : Station) :
    (observeAll events).run Station.perform s = s.run (events.map fun e => .event e.1 e.2) := by
  induction events generalizing s with
  | nil => rfl
  | cons event rest ih =>
    rw [observeAll, run_bind, run_bind, run_pure, run_observe, ih]
    rfl

/-- One caller alone is an interleaving as well. -/
private theorem Talk.interleaving_run (events : List (Nat × Nat)) (s : Station) :
    ∃ lines outcomes, Interleaving Station.perform ([events].map observeAll) s lines outcomes
      (s.run (events.map fun e => .event e.1 e.2)).2 := by
  have halone := Interleaving.alone Station.perform (observeAll events) s
  rw [run_observeAll] at halone
  exact ⟨_, _, halone⟩

/-! ### The calls of an interleaving -/

section Calls

variable {host : Host} {depth : Nat}

/-- A path of such a dialogue is made of one call for each event. -/
private theorem Talk.calls_of_path {events : List (Nat × Nat)} {lines : List Line}
    {outcomes : List Outcome} (h : Path (observeAll events) lines outcomes)
    (hanswers : ∀ line ∈ lines, Station.Answers host depth line) :
    ∃ calls : List (Call host depth), calls.map Call.event = events ∧
      calls.map Call.outcome = outcomes ∧ calls.flatMap Call.lines = lines := by
  induction events generalizing lines outcomes with
  | nil =>
    obtain ⟨rfl, rfl⟩ := path_pure.mp h
    exact ⟨[], rfl, rfl, rfl⟩
  | cons event rest ih =>
    obtain ⟨first, outcome, others, rfl, hfirst, hothers⟩ := h.of_bind
    obtain ⟨second, later, _, rfl, hsecond, hdone⟩ := hothers.of_bind
    obtain ⟨rfl, rfl⟩ := path_pure.mp hdone
    obtain ⟨calls, rfl, rfl, rfl⟩ := ih hsecond fun line hline => hanswers line (by simp [hline])
    let call : Call host depth :=
      ⟨event, first, outcome, hfirst, fun line hline => hanswers line (by simp [hline])⟩
    exact ⟨call :: calls, rfl, rfl, by simp [call]⟩

/-- So are the paths of several callers. -/
private theorem Talk.calls_of_tellings {callers : List (List (Nat × Nat))}
    {told : List (Telling Action Action.Answer (List Outcome))}
    (h : told.map Telling.dialogue = callers.map observeAll)
    (hanswers : ∀ line ∈ told.flatMap Telling.lines, Station.Answers host depth line) :
    ∃ calls : List (Call host depth), calls.map Call.event = callers.flatten ∧
      calls.map Call.outcome = (told.map Telling.result).flatten ∧
      calls.flatMap Call.lines = told.flatMap Telling.lines ∧
      (told.map Telling.result).map List.length = callers.map List.length := by
  induction callers generalizing told with
  | nil =>
    obtain rfl : told = [] := List.map_eq_nil_iff.mp h
    exact ⟨[], rfl, rfl, rfl, rfl⟩
  | cons events rest ih =>
    obtain ⟨one, others, rfl, hone, hothers⟩ := List.map_eq_cons_iff.mp h
    obtain ⟨calls, hevents, houtcomes, hlines⟩ :=
      calls_of_path (hone ▸ one.path) fun line hline => hanswers line (by simp [hline])
    obtain ⟨later, hlater, houtcomes', hlines', hlengths⟩ :=
      ih hothers fun line hline => hanswers line (by simp only [List.flatMap_cons]; simp [hline])
    refine ⟨calls ++ later, ?_, ?_, ?_, ?_⟩
    · rw [List.map_append, hevents, hlater, List.flatten_cons]
    · rw [List.map_append, houtcomes, houtcomes', List.map_cons, List.flatten_cons]
    · rw [List.flatMap_append, hlines, hlines', List.flatMap_cons]
    · rw [List.map_cons, List.map_cons, hlengths, List.map_cons, ← houtcomes, ← hevents,
        List.length_map, List.length_map]

private theorem Call.exists_records (calls : List (Call host depth)) : ∃ records : List Record,
    (calls.flatMap fun c => c.lines.filterMap Line.payload?) = records.map Record.payload ∧
      (calls.flatMap fun c => c.lines.filterMap Line.counted?) =
        records.map fun r => (r.className, r.count) := by
  induction calls with
  | nil => exact ⟨[], rfl, rfl⟩
  | cons c rest ih =>
    obtain ⟨first, hfirst, hfirst'⟩ := c.payloads_eq
    obtain ⟨later, hlater, hlater'⟩ := ih
    refine ⟨first ++ later, ?_, ?_⟩
    · rw [List.flatMap_cons, hfirst, hlater, List.map_append]
    · rw [List.flatMap_cons, hfirst', hlater', List.map_append]

/-- Calls one after the other give back what they are lent. -/
private theorem Call.settled_enterAll (calls : List (Call host depth)) {l : Ledger}
    (hl : l.Settled) :
    (Ledger.custody.enterAll l (calls.flatMap Call.lines)).Settled := by
  induction calls generalizing l with
  | nil => exact hl
  | cons c rest ih =>
    have hfirst := (Talk.tidy_observe c.event.1 c.event.2 hl).path c.path
    rw [List.flatMap_cons, Account.enterAll, List.foldl_append]
    exact ih hfirst

/-- The lines of these calls, in any order. -/
def MadeOf (lines : List Line) (calls : List (Call host depth)) : Prop :=
  lines.Perm (calls.flatMap Call.lines)

namespace MadeOf

variable {lines : List Line} {calls : List (Call host depth)} (h : MadeOf lines calls)

include h

/-- What is picked out of the lines is picked out of the calls one by one. -/
private theorem filterMap_perm (f : Line → Option γ) :
    (lines.filterMap f).Perm (calls.flatMap fun c => c.lines.filterMap f) := by
  rw [← List.filterMap_flatMap]
  exact h.filterMap f

/-- There is one decision for each call. -/
private theorem admitted_perm :
    (lines.filterMap Line.admitted?).Perm
      (calls.map fun c => decide (c.outcome ≠ .notSampled)) := by
  have hpicked := h.filterMap_perm Line.admitted?
  simp only [Call.admitted_eq] at hpicked
  rwa [List.map_eq_flatMap]

private theorem length_admitted : (lines.filterMap Line.admitted?).length = calls.length := by
  rw [h.admitted_perm.length_eq, List.length_map]

theorem count_eventsSeen : (lines.filterMap Line.counter?).count .eventsSeen = calls.length := by
  rw [(h.filterMap_perm Line.counter?).count_eq, List.count_flatMap]
  simp [Function.comp_def, Call.count_eventsSeen]

theorem count_eventsSampled : (lines.filterMap Line.counter?).count .eventsSampled =
    (lines.filterMap Line.admitted?).count true := by
  rw [(h.filterMap_perm Line.counter?).count_eq, (h.filterMap_perm Line.admitted?).count_eq,
    List.count_flatMap, List.count_flatMap]
  simp only [Function.comp_def, Call.count_eventsSampled]

/-- Counts were given to the events that were emitted, under the names of their types. -/
private theorem counted_perm : (lines.filterMap Line.counted?).Perm
    ((calls.map fun c => (c.event, c.outcome)).filterMap host.scenario.emittedAs) := by
  refine (h.filterMap_perm Line.counted?).trans (List.Perm.of_eq ?_)
  simp only [Call.counted_eq]
  rw [List.filterMap_map, List.filterMap_eq_flatMap_toList]
  rfl

/-- The payloads are those of records with the names and counts that were given. -/
private theorem exists_records : ∃ records : List Record,
    lines.filterMap Line.payload? = records.map Record.payload ∧
      (lines.filterMap Line.counted?).Perm (records.map fun r => (r.className, r.count)) := by
  obtain ⟨byCall, hpayloads, hcounted⟩ := Call.exists_records calls
  have hsent := h.filterMap_perm Line.payload?
  rw [hpayloads] at hsent
  -- the payloads are in the order in which they were sent, and so are the records to be named
  obtain ⟨records, hrecords⟩ :
      lines.filterMap Line.payload? ∈ Set.range (List.map Record.payload) := by
    rw [Set.range_list_map]
    intro payload hpayload
    obtain ⟨r, -, hr⟩ := List.mem_map.mp (hsent.mem_iff.mp hpayload)
    exact ⟨r, hr⟩
  have hsame : records.Perm byCall := by
    rw [← hrecords] at hsent
    exact (List.map_perm_map_iff Record.payload_injective).mp hsent
  refine ⟨records, hrecords.symm, (h.filterMap_perm Line.counted?).trans ?_⟩
  rw [hcounted]
  exact hsame.symm.map _

/-- All buffers went back. -/
theorem settled : (Ledger.ofTranscript lines).Settled := by
  have hsame : Ledger.ofTranscript lines = Ledger.ofTranscript (calls.flatMap Call.lines) := by
    rw [Ledger.ofTranscript, Ledger.ofTranscript, Account.enterAll, Account.enterAll]
    exact h.foldl_eq ({} : Ledger)
  rw [hsame]
  exact Call.settled_enterAll calls rfl

/-- If all events were admitted, the calls differ from their events by their counts alone. -/
private theorem filterMap_perm_admission (hall : ∀ c ∈ calls, c.outcome ≠ .notSampled)
    {f : Line → Option γ} (hf : Line.Uncounting f) :
    (lines.filterMap f).Perm ((calls.map Call.event).flatMap fun event =>
      (Talk.admission host depth event.1 event.2 0).filterMap f) := by
  refine (h.filterMap_perm f).trans (List.Perm.of_eq ?_)
  rw [List.flatMap_map]
  refine List.flatMap_congr fun c hc => ?_
  obtain ⟨count, hlines⟩ := c.eq_admission (hall c hc)
  rw [hlines, Talk.filterMap_admission hf _ _ count 0]

end MadeOf

end Calls

/-! ### Answers in the order in which they were given -/

/-- One decision in `rate` admits its event, counting from the first one. -/
private theorem count_admitted {rate : Nat} (hrate : 0 < rate) (n : Nat) :
    ((List.range n).map fun k => k % rate == 0).count true = (n + rate - 1) / rate := by
  induction n with
  | zero =>
    have hlt : rate - 1 < rate := Nat.sub_one_lt_of_lt hrate
    simp [Nat.div_eq_of_lt hlt]
  | succ n ih =>
    have hnext : n + 1 + rate - 1 = n + rate - 1 + 1 := by omega
    have hsame : n + rate - 1 + 1 = n + rate := by omega
    rw [List.range_succ, List.map_append, List.count_append, ih, hnext, Nat.succ_div, hsame]
    by_cases hn : n % rate = 0 <;> simp [hn, Nat.dvd_iff_mod_eq_zero]

/-- A station that has seen no event yet. It admits one event in `rate` and captures stacks of this
depth. -/
def Station.fresh (host : Host) (rate : Int) (depth : Nat) (sink : Sink) : Station where
  monitor := { host := host, sampling := { rate := rate, depth := depth } }
  sink := sink

namespace Station

variable {host : Host} {rate : Int} {depth : Nat} {sink : Sink} {last : Station} {lines : List Line}

private theorem admits_fresh (hrate : 0 < rate) {k : Nat} (hk : k < UInt64.size) :
    ((fresh host rate depth sink).monitor.sampling.after k).admits = (k % rate.toNat == 0) := by
  simp [Sampling.admits, Sampling.after, fresh, hrate, UInt64.toNat_ofNat_of_lt' hk]

/-- Each counter of the metrics holds how often it was raised. -/
private theorem Follows.counter_eq (h : Follows (fresh host rate depth sink) last lines)
    (c : Counter) :
    last.monitor.metrics.counter c = .ofNat ((lines.filterMap Line.counter?).count c) := by
  have hzero : (fresh host rate depth sink).monitor.metrics.counter c = 0 := by cases c <;> rfl
  rw [h.metrics, Metrics.counter_foldl_bump, hzero, UInt64.zero_add]

section

variable {calls : List (Call host depth)} (h : Follows (fresh host rate depth sink) last lines)
  (hmade : MadeOf lines calls) (hfew : calls.length < UInt64.size)

include h hmade hfew

private theorem Follows.decisions_eq : last.monitor.sampling.decisions.toNat = calls.length := by
  have hword : last.monitor.sampling.decisions = 0 + .ofNat calls.length := by
    rw [← hmade.length_admitted]
    exact congrArg Sampling.decisions h.sampling
  rw [hword, UInt64.zero_add, UInt64.toNat_ofNat_of_lt' hfew]

private theorem Follows.eventsSeen_eq : last.monitor.metrics.eventsSeen.toNat = calls.length := by
  have hword := h.counter_eq .eventsSeen
  rw [hmade.count_eventsSeen] at hword
  exact (congrArg UInt64.toNat hword).trans (UInt64.toNat_ofNat_of_lt' hfew)

/-- The decisions admit one call in `rate`, and no call is sampled unless it was admitted. -/
private theorem Follows.eventsSampled_eq (hrate : 0 < rate) :
    last.monitor.metrics.eventsSampled.toNat =
      (calls.length + rate.toNat - 1) / rate.toNat := by
  have hle : (lines.filterMap Line.admitted?).count true < UInt64.size :=
    Nat.lt_of_le_of_lt List.count_le_length (hmade.length_admitted.trans_lt hfew)
  have hword := congrArg UInt64.toNat (h.counter_eq .eventsSampled)
  rw [hmade.count_eventsSampled, UInt64.toNat_ofNat_of_lt' hle] at hword
  refine hword.trans ?_
  rw [h.admitted, hmade.length_admitted, ← count_admitted (Int.pos_iff_toNat_pos.mp hrate)]
  refine congrArg (List.count true) (List.map_congr_left fun k hk => ?_)
  exact admits_fresh hrate (Nat.lt_trans (List.mem_range.mp hk) hfew)

/-- The counts given under a name, in their order, are the numbers up to the count in the tally. -/
private theorem Follows.counts_eq (name : String) :
    (Tally.countsOf name (lines.filterMap Line.counted?)).map UInt64.toNat =
      List.range' 1 (last.monitor.tally.get name).toNat := by
  have hzero : (fresh host rate depth sink).monitor.tally.get name = 0 := rfl
  have hle : (Tally.countsOf name (lines.filterMap Line.counted?)).length ≤ calls.length := by
    have hcounted := List.length_filterMap_le host.scenario.emittedAs
      (calls.map fun c => (c.event, c.outcome))
    rw [← hmade.counted_perm.length_eq, List.length_map] at hcounted
    exact Nat.le_trans (List.length_filterMap_le _ _) hcounted
  have hget : (last.monitor.tally.get name).toNat =
      (Tally.countsOf name (lines.filterMap Line.counted?)).length := by
    rw [h.tally, Tally.get_recordAll, ← Tally.length_countsOf, hzero, UInt64.zero_add,
      UInt64.toNat_ofNat_of_lt' (Nat.lt_of_le_of_lt hle hfew)]
  rw [hget]
  generalize hn : (Tally.countsOf name (lines.filterMap Line.counted?)).length = n at hle
  rw [h.counted name, hn, List.map_map, List.range'_eq_map_range]
  refine List.map_congr_left fun k hk => ?_
  have hlt : k + 1 < UInt64.size := by
    have := List.mem_range.mp hk
    omega
  rw [Function.comp_apply, hzero, UInt64.zero_add, UInt64.toNat_ofNat_of_lt' hlt, Nat.add_comm]

end

/-- With a rate of one every event is admitted. -/
private theorem Follows.all_admitted (h : Follows (fresh host 1 depth sink) last lines)
    {calls : List (Call host depth)} (hmade : MadeOf lines calls) :
    ∀ c ∈ calls, c.outcome ≠ .notSampled := by
  intro c hc
  have hmem : decide (c.outcome ≠ .notSampled) ∈ lines.filterMap Line.admitted? :=
    hmade.admitted_perm.mem_iff.mpr (List.mem_map_of_mem hc)
  rw [h.admitted] at hmem
  obtain ⟨k, -, hk⟩ := List.mem_map.mp hmem
  have hadmits : ((fresh host 1 depth sink).monitor.sampling.after k).admits = true := by
    simp [Sampling.admits, Sampling.after, fresh, Nat.mod_one]
  exact of_decide_eq_true (hk.symm.trans hadmits)

end Station

/-! ### Interleavings of callers -/

section Interleaved

variable {first last : Station} {callers : List (List (Nat × Nat))} {lines : List Line}
  {outcomes : List (List Outcome)}

/-- An interleaving of callers is made of one call for each event. -/
theorem calls_of_interleaving
    (h : Interleaving Station.perform (callers.map Talk.observeAll) first lines outcomes last) :
    first.Follows last lines ∧
      ∃ calls : List (Call first.monitor.host first.monitor.sampling.depth), MadeOf lines calls ∧
        calls.map Call.event = callers.flatten ∧ calls.map Call.outcome = outcomes.flatten ∧
        outcomes.map List.length = callers.map List.length := by
  have hfollows : first.Follows last lines :=
    h.follows (fun _ _ a hs => hs.perform a) (Station.Follows.refl first)
  obtain ⟨told, hdialogues, rfl, hperm⟩ := h.tellings
  obtain ⟨calls, hevents, houtcomes, hlines, hlengths⟩ :=
    Talk.calls_of_tellings hdialogues fun line hline =>
      hfollows.answers line (hperm.mem_iff.mpr hline)
  have hmade : MadeOf lines calls := by rwa [MadeOf, hlines]
  exact ⟨hfollows, calls, hmade, hevents, houtcomes, hlengths⟩

/-- No buffer is out when all callers are done. -/
private theorem outstanding_of_interleaving
    (h : Interleaving Station.perform (callers.map Talk.observeAll) first lines outcomes last)
    (hleaky : first.monitor.host.conduct.leaky = false)
    (hfresh : first.monitor.host.outstanding = 0) : last.monitor.host.outstanding = 0 := by
  have hstep : ∀ (s : Station) (past : List Line) (a : Action),
      Ledger.Counts false s (Ledger.ofTranscript past) →
        Ledger.Counts false (s.perform a).2
          (Ledger.ofTranscript (past ++ [⟨a, (s.perform a).1⟩])) := by
    intro s past a hs
    rw [Ledger.ofTranscript, Account.enterAll, List.foldl_append]
    exact hs.perform a
  have hstart : Ledger.Counts false first (Ledger.ofTranscript []) := ⟨hleaky, hfresh⟩
  have hcounts : Ledger.Counts false last (Ledger.ofTranscript lines) := h.follows hstep hstart
  obtain ⟨-, calls, hmade, -⟩ := calls_of_interleaving h
  have hsettled : (Ledger.ofTranscript lines).Settled := hmade.settled
  have hsum := hcounts.toNat hsettled.sound
  rw [hsettled] at hsum
  exact UInt64.toNat_inj.mp (Nat.add_left_cancel (hsum.trans (Nat.add_zero _).symm))

end Interleaved

/-! ### The same events in another order -/

private theorem filterMap_uncounted? {lines : List Line} {records : List Record}
    (h : lines.filterMap Line.payload? = records.map Record.payload) :
    lines.filterMap Line.uncounted? = records.map Record.uncounted := by
  have hsplit : lines.filterMap Line.uncounted? =
      (lines.filterMap Line.payload?).filterMap Record.uncounted? := List.filterMap_filterMap.symm
  rw [hsplit, h, List.filterMap_map]
  simp only [Function.comp_def, Record.uncounted?_payload]
  rw [List.filterMap_eq_map']

/-- **The same in both stations**, as far as the order of events does not matter to it: the counts
and the snapshot of the tally, the metrics, and the calls to the host. -/
structure Station.Agree (s s' : Station) : Prop where
  get : ∀ name, s.monitor.tally.get name = s'.monitor.tally.get name
  snapshot : s.monitor.tally.snapshot = s'.monitor.tally.snapshot
  metrics : s.monitor.metrics = s'.monitor.metrics
  calls : s.monitor.host.calls = s'.monitor.host.calls

/-- Two interleavings of the same events, in whatever order and spread over whatever callers, agree
if every event is admitted. -/
theorem agree_of_perm {host : Host} {depth : Nat} {sink sink' : Sink}
    {callers callers' : List (List (Nat × Nat))} {lines lines' : List Line}
    {outcomes outcomes' : List (List Outcome)} {last last' : Station}
    (h : Interleaving Station.perform (callers.map Talk.observeAll) (.fresh host 1 depth sink) lines
      outcomes last)
    (h' : Interleaving Station.perform (callers'.map Talk.observeAll) (.fresh host 1 depth sink')
      lines' outcomes' last')
    (hperm : callers.flatten.Perm callers'.flatten) :
    last.Agree last' ∧
      (lines.filterMap Line.uncounted?).Perm (lines'.filterMap Line.uncounted?) := by
  obtain ⟨hfollows, calls, hmade, hevents, -⟩ := calls_of_interleaving h
  obtain ⟨hfollows', calls', hmade', hevents', -⟩ := calls_of_interleaving h'
  -- whatever is picked out without looking at counts is picked out of the events
  have hpicked : ∀ {γ : Type} {f : Line → Option γ}, Line.Uncounting f →
      (lines.filterMap f).Perm (lines'.filterMap f) := by
    intro γ f hf
    have hone := hmade.filterMap_perm_admission (hfollows.all_admitted hmade) hf
    have hother := hmade'.filterMap_perm_admission (hfollows'.all_admitted hmade') hf
    rw [hevents] at hone
    rw [hevents'] at hother
    exact hone.trans ((hperm.flatMap_right _).trans hother.symm)
  have hcounters : (lines.filterMap Line.counter?).Perm (lines'.filterMap Line.counter?) :=
    hpicked ⟨fun _ _ _ => rfl, fun _ _ _ => rfl⟩
  have hqueries : (lines.filterMap Line.query?).Perm (lines'.filterMap Line.query?) :=
    hpicked ⟨fun _ _ _ => rfl, fun _ _ _ => rfl⟩
  have hnames : ((lines.filterMap Line.counted?).map Prod.fst).Perm
      ((lines'.filterMap Line.counted?).map Prod.fst) := by
    rw [List.map_filterMap, List.map_filterMap]
    exact hpicked ⟨fun _ _ _ => rfl, fun _ _ _ => rfl⟩
  obtain ⟨hget, hsnapshot⟩ := Tally.recordAll_perm hnames
  refine ⟨⟨?_, ?_, ?_, ?_⟩, hpicked ⟨fun _ _ _ => rfl, fun _ _ h => h⟩⟩
  · rw [hfollows.tally, hfollows'.tally]
    exact hget
  · rw [hfollows.tally, hfollows'.tally]
    exact hsnapshot
  · rw [hfollows.metrics, hfollows'.metrics]
    exact hcounters.foldl_eq _
  · rw [hfollows.calls, hfollows'.calls, hqueries.length_eq]
    rfl

/-- So does an interleaving with a station that observes the events one after the other. -/
theorem agree_run {host : Host} {depth : Nat} {sink : Sink} {callers : List (List (Nat × Nat))}
    {lines : List Line} {outcomes : List (List Outcome)} {last : Station}
    (h : Interleaving Station.perform (callers.map Talk.observeAll) (.fresh host 1 depth sink) lines
      outcomes last) {records : List Record}
    (hpayloads : lines.filterMap Line.payload? = records.map Record.payload)
    {order : List (Nat × Nat)} (horder : order.Perm callers.flatten) :
    let alone := ((Station.fresh host 1 depth (.closure [])).run
      (order.map fun event => .event event.1 event.2)).2
    last.Agree alone ∧
      ∃ records' : List Record, alone.sink = .closure (records'.map Record.payload) ∧
        (records.map Record.uncounted).Perm (records'.map Record.uncounted) := by
  intro alone
  obtain ⟨lines', outcomes', halone⟩ :=
    Talk.interleaving_run order (Station.fresh host 1 depth (.closure []))
  have hperm : callers.flatten.Perm [order].flatten := by
    rw [List.flatten_singleton]
    exact horder.symm
  obtain ⟨hagree, huncounted⟩ := agree_of_perm h halone hperm
  obtain ⟨hfollows, calls, hmade, -⟩ := calls_of_interleaving halone
  obtain ⟨records', hpayloads', -⟩ := hmade.exists_records
  refine ⟨hagree, records', ?_, ?_⟩
  · have hsink := hfollows.sink
    rw [hpayloads'] at hsink
    exact hsink.trans (Sink.sendAll_closure [] _)
  · rwa [← filterMap_uncounted? hpayloads, ← filterMap_uncounted? hpayloads']

/-! ### The main statement -/

/-- **No update is lost, and none is made twice.** Any number of callers observe events at the same
time on a fresh station whose rate is positive, and all of them finish, after fewer than `2 ^ 64`
calls in all. Whatever the order of their actions, there were as many decisions and events seen as
calls, and one call in `rate` was sampled. For every type, the counts of the calls that were emitted
are the numbers up to the count in the tally, each of them once, and so are the counts of the
records sent. No buffer is out. With a rate of one, the station agrees with one that observes the
same events one after the other, in whatever order, and the records sent are the same but for their
counts. -/
theorem interleaved_calls_conserved (host : Host) (hleaky : host.conduct.leaky = false)
    (hout : host.outstanding = 0) {rate : Int} (hrate : 0 < rate) (depth : Nat) (sink : Sink)
    (callers : List (List (Nat × Nat))) (hfew : callers.flatten.length < UInt64.size)
    {lines : List Line} {outcomes : List (List Outcome)} {last : Station}
    (h : Interleaving Station.perform (callers.map Talk.observeAll)
      (Station.fresh host rate depth sink) lines outcomes last) :
    let calls := callers.flatten.length
    let monitor := last.monitor
    outcomes.map List.length = callers.map List.length ∧
      (monitor.sampling.decisions.toNat = calls ∧ monitor.metrics.eventsSeen.toNat = calls) ∧
      monitor.metrics.eventsSampled.toNat = (calls + rate.toNat - 1) / rate.toNat ∧
      monitor.host.outstanding = 0 ∧
      ∃ records : List Record,
        (lines.filterMap Line.payload? = records.map Record.payload ∧
          last.sink = sink.sendAll (records.map Record.payload)) ∧
        (∀ name,
          ((Tally.countsOf name ((callers.flatten.zip outcomes.flatten).filterMap
              host.scenario.emittedAs)).map UInt64.toNat).Perm
            (List.range' 1 (monitor.tally.get name).toNat) ∧
          ((Tally.countsOf name (records.map fun r => (r.className, r.count))).map
              UInt64.toNat).Perm
            (List.range' 1 (monitor.tally.get name).toNat)) ∧
        (rate = 1 → ∀ order : List (Nat × Nat), order.Perm callers.flatten →
          let alone := ((Station.fresh host rate depth (.closure [])).run
            (order.map fun event => .event event.1 event.2)).2
          last.Agree alone ∧
            ∃ records' : List Record, alone.sink = .closure (records'.map Record.payload) ∧
              (records.map Record.uncounted).Perm (records'.map Record.uncounted)) := by
  intro n monitor
  obtain ⟨hfollows, calls, hmade, hevents, houtcomes, hlengths⟩ := calls_of_interleaving h
  obtain ⟨records, hpayloads, hcounted⟩ := hmade.exists_records
  have hn : calls.length = n := by rw [← List.length_map Call.event, hevents]
  have hlt : calls.length < UInt64.size := hn.trans_lt hfew
  have hzip : callers.flatten.zip outcomes.flatten = calls.map fun c => (c.event, c.outcome) := by
    rw [← hevents, ← houtcomes, List.zip_map']
  refine ⟨hlengths, ⟨?_, ?_⟩, ?_, outstanding_of_interleaving h hleaky hout, records,
    ⟨hpayloads, ?_⟩, fun name => ⟨?_, ?_⟩, ?_⟩
  · rw [← hn]
    exact hfollows.decisions_eq hmade hlt
  · rw [← hn]
    exact hfollows.eventsSeen_eq hmade hlt
  · rw [← hn]
    exact hfollows.eventsSampled_eq hmade hlt hrate
  · rw [← hpayloads]
    exact hfollows.sink
  · rw [← hfollows.counts_eq hmade hlt, hzip]
    exact (hmade.counted_perm.symm.filterMap _).map _
  · rw [← hfollows.counts_eq hmade hlt]
    exact (hcounted.symm.filterMap _).map _
  · rintro rfl order horder
    exact agree_run h hpayloads horder

/-- Two callers take their turns. The second one overtakes the first one, which has been admitted
but not counted yet, so that its event gets the lower count. -/
def overtaking : List Nat :=
  List.replicate 4 0 ++ List.replicate 5 1 ++ List.replicate 20 0 ++ List.replicate 40 1

/-- The callers finish, and what they did adds up. -/
theorem interleaved_calls_conserved_overtaking :
    let callers := [[(0, 0)], [(0, 0), (0, 2)]]
    let start := Station.fresh { scenario := sharedLock } 1 1 (.closure [])
    let held := schedule Station.perform overtaking (callers.map Talk.observeAll) start
    results? held.2.1 = some [[.emitted 2], [.emitted 1, .emitted 3]] ∧
      held.2.2.monitor.metrics.eventsSampled.toNat = 3 ∧
      held.2.2.monitor.host.outstanding = 0 ∧
      held.2.2.Agree (start.run [.event 0 2, .event 0 0, .event 0 0]).2 := by
  intro callers
  have hdone : results? (schedule Station.perform overtaking (callers.map Talk.observeAll)
      (Station.fresh { scenario := sharedLock } 1 1 (.closure []))).2.1 =
        some [[.emitted 2], [.emitted 1, .emitted 3]] := by
    decide +kernel
  obtain ⟨-, -, hsampled, hout, records, -, -, halone⟩ :=
    interleaved_calls_conserved { scenario := sharedLock } rfl rfl (by decide) 1 (.closure [])
      callers (by decide) (Interleaving.of_schedule hdone)
  dsimp only
  exact ⟨hdone, hsampled.trans (by decide), hout,
    (halone rfl [(0, 2), (0, 0), (0, 0)] (by decide)).1⟩

end Contention
