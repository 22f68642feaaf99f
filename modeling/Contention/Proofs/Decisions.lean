import Mathlib.Data.List.Induction
import Contention.Proofs.Sampling

/-!
# Decisions told from the calls before them

A sampling state is changed through three **setters**: the switch, the rate and the depth. Settings
call all three, in this order (`control_eq`). `lastSet?` looks for the last call that gives a value
of some kind.

A run of a new state ends in the state of its history (`run_new`), and what a history looks back for
is what the setters called in it gave last: `switch_reverse`, `rate_reverse` and `depth_reverse`.

`decisions_follow_setters` is the main statement: it tells every answer of a run from the steps
before it, and the state at the end from all of them.
-/

namespace Contention

namespace Sampling

/-! ### Setters -/

/-- A call of one of the three setters. -/
inductive Setter where
  | enable (on : Bool)
  | rate (rate : Int)
  | depth (depth : Int)
deriving DecidableEq, Repr

/-- The state after a call of a setter. -/
def set (s : Sampling) : Setter → Sampling
  | .enable on => s.setEnabled on
  | .rate rate => s.setRate rate
  | .depth depth => s.setDepth depth

/-- How a call leaves the switch, if it touches it. -/
def Setter.switch? : Setter → Option Bool
  | .enable on => some on
  | .rate new => some (decide (0 < new))
  | .depth _ => none

/-- The rate of a call, if it is positive. -/
def Setter.positiveRate? : Setter → Option Int
  | .rate new => if 0 < new then some new else none
  | _ => none

/-- The depth of a call. -/
def Setter.depth? : Setter → Option Int
  | .depth new => some new
  | _ => none

/-! ### Steps and the setters they call -/

/-- The setters that a step calls, in order. -/
def Step.setters : Step → List Setter
  | .control (.enable on) => [.enable on]
  | .control (.rate rate) => [.rate rate]
  | .control (.depth depth) => [.depth depth]
  | .control (.settings settings) =>
    [.enable settings.stackTrace, .rate settings.sampleRate, .depth settings.stackDepth]
  | .decision => []

/-- A change does what its setters do, one after the other. -/
theorem control_eq (s : Sampling) (change : Control) :
    s.control change = (Step.control change).setters.foldl set s := by
  cases change <;> rfl

/-- The last value that the setters called by some steps give. -/
def lastSet? (value? : Setter → Option α) (steps : List Step) : Option α :=
  ((steps.flatMap Step.setters).filterMap value?).getLast?

/-- What the last step sets counts before all that was set earlier. -/
private theorem lastSet?_concat (value? : Setter → Option α) (past : List Step) (last : Step) :
    lastSet? value? (past ++ [last]) =
      (last.setters.filterMap value?).getLast?.or (lastSet? value? past) := by
  rw [lastSet?, List.flatMap_append, List.filterMap_append, List.getLast?_append,
    List.flatMap_singleton]
  rfl

/-! ### Histories and the setters called in them

A history lists the steps from the latest on, so the last step is taken off first in the
inductions. -/

theorem switch_reverse (steps : List Step) :
    History.switch steps.reverse = (lastSet? Setter.switch? steps).getD true := by
  induction steps using List.reverseRecOn with
  | nil => rfl
  | append_singleton past last ih =>
    rw [List.reverse_concat, lastSet?_concat]
    cases last with
    | decision => exact ih
    | control change =>
      cases change with
      | enable on => rfl
      | rate new => rfl
      | settings c => rfl
      | depth new => exact ih

theorem rate_reverse (steps : List Step) :
    History.rate steps.reverse = (lastSet? Setter.positiveRate? steps).getD 1 := by
  induction steps using List.reverseRecOn with
  | nil => rfl
  | append_singleton past last ih =>
    rw [List.reverse_concat, lastSet?_concat]
    cases last with
    | decision => exact ih
    | control change =>
      cases change with
      | enable on => exact ih
      | depth new => exact ih
      | rate new =>
        by_cases hnew : 0 < new <;>
          simp [History.rate, Step.setters, Setter.positiveRate?, hnew, ih]
      | settings c =>
        by_cases hnew : 0 < c.sampleRate <;>
          simp [History.rate, Step.setters, Setter.positiveRate?, List.findSome?_cons, hnew, ih]

theorem depth_reverse (steps : List Step) :
    (History.depth steps.reverse : Int) =
      ((lastSet? Setter.depth? steps).map fun d => max 0 (min (maxDepth : Int) d)).getD 0 := by
  have hrange (new : Int) :
      ((min new.toNat maxDepth : Nat) : Int) = max 0 (min (maxDepth : Int) new) := by
    omega
  induction steps using List.reverseRecOn with
  | nil => rfl
  | append_singleton past last ih =>
    rw [List.reverse_concat, lastSet?_concat]
    cases last with
    | decision => exact ih
    | control change =>
      cases change with
      | enable on => exact ih
      | rate new => exact ih
      | depth new => exact hrange new
      | settings c => exact hrange c.stackDepth

theorem decisions_reverse (steps : List Step) :
    History.decisions steps.reverse = steps.count .decision :=
  List.count_reverse

/-! ### Runs -/

/-- The state after a step, with an answer if the step is a decision. -/
def step (s : Sampling) : Step → Option Bool × Sampling
  | .control change => (none, s.control change)
  | .decision =>
    let (admitted, s) := s.next
    (some admitted, s)

/-- The state after some steps, with the answers of all decisions in order. -/
def run (s : Sampling) : List Step → List Bool × Sampling
  | [] => ([], s)
  | first :: rest =>
    let (answer, s) := s.step first
    let (later, s) := s.run rest
    (answer.toList ++ later, s)

theorem run_control (s : Sampling) (change : Control) (rest : List Step) :
    s.run (.control change :: rest) = (s.control change).run rest := rfl

private theorem run_decision (s : Sampling) (rest : List Step) :
    s.run (.decision :: rest) = (s.admits :: (s.next.2.run rest).1, (s.next.2.run rest).2) := rfl

/-- A run leads from the state of a history to that of the longer one. -/
theorem run_state (h : History) (steps : List Step) :
    (h.state.run steps).2 = History.state (steps.reverse ++ h) := by
  induction steps generalizing h with
  | nil => rfl
  | cons first rest ih =>
    rw [List.reverse_cons, List.append_assoc, List.singleton_append, ← ih]
    cases first with
    | control change => rw [run_control, History.control_state]
    | decision => rw [run_decision, History.next_state]

/-- A run of a new state ends in the state of the steps taken, the latest first. -/
theorem run_new (steps : List Step) : (run {} steps).2 = History.state steps.reverse := by
  have hrun := run_state [] steps
  rw [List.append_nil] at hrun
  exact hrun

private theorem run_append (s : Sampling) (past rest : List Step) :
    s.run (past ++ rest) =
      ((s.run past).1 ++ ((s.run past).2.run rest).1, ((s.run past).2.run rest).2) := by
  induction past generalizing s with
  | nil => rfl
  | cons first past ih =>
    cases first with
    | control change => rw [List.cons_append, run_control, run_control, ih]
    | decision => rw [List.cons_append, run_decision, run_decision, ih, List.cons_append]

/-- Each decision has its answer. -/
theorem length_run (s : Sampling) (steps : List Step) :
    (s.run steps).1.length = steps.count .decision := by
  induction steps generalizing s with
  | nil => rfl
  | cons first rest ih =>
    cases first with
    | control change =>
      rw [run_control, ih, List.count_cons_of_ne (by simp)]
    | decision =>
      rw [run_decision, List.length_cons, ih, List.count_cons_self]

/-- The answer of a decision in a run is that of the state before it. -/
private theorem answer_run (s : Sampling) (past rest : List Step) :
    (s.run (past ++ .decision :: rest)).1[past.count .decision]? =
      some (s.run past).2.admits := by
  rw [run_append, ← length_run s past, List.getElem?_append_right (Nat.le_refl _), Nat.sub_self,
    run_decision, List.getElem?_cons_zero]

/-- A positive rate makes the guard of a decision superfluous. -/
private theorem admits_of_rate_pos {s : Sampling} (hpos : 0 < s.rate) :
    s.admits = (s.enabled && s.decisions.toNat % s.rate.toNat == 0) := by
  rw [admits, decide_eq_true hpos, Bool.and_true]

/-- What a decision that is taken after some steps depends on. -/
private theorem admits_run_iff {past : List Step} (hlt : past.count .decision < UInt64.size) :
    (run {} past).2.admits = true ↔ (lastSet? Setter.switch? past).getD true = true ∧
      ((past.count .decision : Nat) : Int) % (lastSet? Setter.positiveRate? past).getD 1 = 0 := by
  rw [← decisions_reverse] at hlt
  rw [run_new, History.admits_state hlt, History.admits, Bool.and_eq_true, decide_eq_true_eq,
    decisions_reverse, switch_reverse, rate_reverse]

/-! ### The main statement -/

/-- **Decisions follow the setters called before them.** Take any steps on a new state, fewer than
`2 ^ 64` of them decisions. There are as many decisions as were taken, each with its answer. A
change is what its setters make of the state, one after the other, and it leaves the number of
decisions alone. The decision with number `k` admits its event exactly if the last earlier call
that touched the switch left it on, or there was none, and `k` is a multiple of the last positive
rate that was set earlier, or of one. The switch and the stored rate are the last ones set in the
same way, so the rate is at least one, and a decision never has to ask whether it is positive. The
depth is the last one set, brought into its range. -/
theorem decisions_follow_setters (steps : List Step) (hlt : steps.count .decision < UInt64.size) :
    let last := run {} steps
    (last.2.decisions.toNat = steps.count .decision ∧
        last.1.length = steps.count .decision ∧
        ∀ change, last.2.control change = (Step.control change).setters.foldl set last.2 ∧
          (last.2.control change).decisions = last.2.decisions) ∧
      (∀ past rest, steps = past ++ .decision :: rest →
        let k : Nat := past.count .decision
        ∃ answer, last.1[k]? = some answer ∧
          (answer = true ↔ (lastSet? Setter.switch? past).getD true = true ∧
            (k : Int) % (lastSet? Setter.positiveRate? past).getD 1 = 0)) ∧
      (last.2.enabled = (lastSet? Setter.switch? steps).getD true ∧
        last.2.rate = (lastSet? Setter.positiveRate? steps).getD 1 ∧ 1 ≤ last.2.rate ∧
        last.2.admits =
          (last.2.enabled && last.2.decisions.toNat % last.2.rate.toNat == 0)) ∧
      (last.2.depth : Int) =
        ((lastSet? Setter.depth? steps).map fun d => max 0 (min (maxDepth : Int) d)).getD 0 := by
  intro last
  have hlast : last.2 = History.state steps.reverse := run_new steps
  have hpos : 0 < last.2.rate := hlast ▸ History.rate_pos steps.reverse
  refine ⟨⟨?_, length_run {} steps, fun change => ⟨control_eq _ _, decisions_control _ _⟩⟩, ?_,
    ⟨?_, ?_, hpos, admits_of_rate_pos hpos⟩, ?_⟩
  · rw [hlast, History.state, decisions_reverse, UInt64.toNat_ofNat_of_lt' hlt]
  · rintro past rest rfl k
    have hk : k < UInt64.size := by
      refine Nat.lt_of_le_of_lt ?_ hlt
      exact (List.sublist_append_left past _).count_le _
    exact ⟨_, answer_run {} past rest, admits_run_iff hk⟩
  · rw [hlast, History.state, switch_reverse]
  · rw [hlast, History.state, rate_reverse]
  · rw [hlast, History.state, depth_reverse]

/-- A rate of two, settings whose rate is not positive, the switch on again, and a rate of three.
The decisions keep their numbers all along. -/
theorem decisions_follow_setters_phases :
    let steps : List Step :=
      [.control (.rate 2), .decision, .decision, .control (.settings ⟨true, -5, 200⟩), .decision,
        .control (.enable true), .decision, .control (.rate 3), .decision, .decision, .decision]
    steps.count .decision = 7 ∧
      (run {} steps).1 = [true, false, false, false, false, false, true] ∧
      (run {} steps).2.decisions.toNat = 7 ∧ (run {} steps).2.rate = 3 ∧
      (run {} steps).2.depth = maxDepth := by
  intro steps
  have hseven : steps.count .decision = 7 := by decide
  obtain ⟨⟨hdecisions, -⟩, -, ⟨-, hrate, -⟩, hdepth⟩ :=
    decisions_follow_setters steps (by rw [hseven]; decide)
  refine ⟨hseven, by decide, hdecisions.trans hseven, hrate.trans (by decide), ?_⟩
  exact Int.ofNat_inj.mp (hdepth.trans (by decide))

end Sampling

end Contention
