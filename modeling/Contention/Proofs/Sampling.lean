import Contention.Settings

/-!
# Sampling as a function of its history

What a sampling state is at any point can be read off from what has happened to it. A `History`
lists the changes and the decisions so far, **the latest first**; `switch`, `rate`, `depth` and
`decisions` each look back through it for the step that matters to them. `History.state` puts the
four together.

The step lemmas are `control_state` and `next_state`: a state that agrees with its history still
does so after a change or a decision. `admits_state` reads off from the history which decision
admits its event. The stored rate is positive along every history (`rate_pos`), so the remainder
in it is never one by zero.

Between two changes only decisions happen, and `after` skips over them. Either none of them ever
admits its event, or the switch is on and the rate is positive (`never_admits_iff`).
-/

namespace Contention.Sampling

/-- Something that happens to a sampling state. -/
inductive Step where
  | control (change : Control)
  | decision
deriving DecidableEq, Repr

/-- What has happened to a sampling state, the latest first. -/
abbrev History := List Step

namespace History

/-- Whether the last step that touched the switch left it on. Settings touch it twice: their rate
comes after their switch and has the last word. -/
def switch : History → Bool
  | [] => true
  | .control (.enable on) :: _ => on
  | .control (.rate rate) :: _ => decide (0 < rate)
  | .control (.settings settings) :: _ => decide (0 < settings.sampleRate)
  | .control (.depth _) :: earlier => switch earlier
  | .decision :: earlier => switch earlier

/-- The last positive rate that was set. -/
def rate : History → Int
  | [] => 1
  | .control (.rate new) :: earlier => if 0 < new then new else rate earlier
  | .control (.settings settings) :: earlier =>
    if 0 < settings.sampleRate then settings.sampleRate else rate earlier
  | _ :: earlier => rate earlier

/-- The last depth that was set, brought into its range. -/
def depth : History → Nat
  | [] => 0
  | .control (.depth new) :: _ => min new.toNat maxDepth
  | .control (.settings settings) :: _ => min settings.stackDepth.toNat maxDepth
  | _ :: earlier => depth earlier

/-- How many decisions were taken. -/
def decisions (h : History) : Nat := h.count .decision

/-- Whether a decision that is taken now admits its event. -/
def admits (h : History) : Bool := h.switch && decide ((h.decisions : Int) % h.rate = 0)

/-- The sampling state at the end of a history. -/
def state (h : History) : Sampling where
  enabled := h.switch
  rate := h.rate
  depth := h.depth
  decisions := UInt64.ofNat h.decisions

/-! ### Steps -/

/-- The stored rate is positive. -/
theorem rate_pos (h : History) : 0 < h.rate := by
  fun_induction rate h with
  | case1 => decide
  | case2 new earlier hnew => exact hnew
  | case3 new earlier _ ih => exact ih
  | case4 settings earlier hnew => exact hnew
  | case5 settings earlier _ ih => exact ih
  | case6 first earlier _ _ ih => exact ih

/-- A change leads from the state of a history to that of the longer one. -/
theorem control_state (h : History) (c : Control) :
    h.state.control c = state (.control c :: h) := by
  cases c with
  | enable on => rfl
  | depth d => rfl
  | rate r =>
    by_cases hr : 0 < r <;>
      simp [control, setRate, state, switch, rate, depth, decisions, hr]
  | settings settings =>
    by_cases hr : 0 < settings.sampleRate <;>
      simp [control, Settings.apply, setEnabled, setRate, setDepth, state, switch, rate, depth,
        decisions, hr]

/-- A decision leads from the state of a history to that of the longer one. -/
theorem next_state (h : History) : h.state.next.2 = state (.decision :: h) := by
  simp [next, state, switch, rate, depth, decisions, UInt64.ofNat_add]

/-- The decision of a state is that of its history, as long as the number of decisions has not
wrapped around. -/
theorem admits_state {h : History} (hlt : h.decisions < UInt64.size) :
    h.state.admits = h.admits := by
  have hpos := h.rate_pos
  have hcast : h.rate = (h.rate.toNat : Int) := by omega
  have hmod : (h.decisions : Int) % h.rate = 0 ↔ h.decisions % h.rate.toNat = 0 := by
    rw [hcast, Int.toNat_natCast]
    exact_mod_cast Iff.rfl
  simp only [Sampling.admits, admits, state, UInt64.toNat_ofNat_of_lt' hlt, hpos, decide_true,
    Bool.and_true, hmod]
  rfl

end History

/-- Changes are no decisions. -/
theorem decisions_control (s : Sampling) (c : Control) :
    (s.control c).decisions = s.decisions := by
  cases c with
  | enable on => rfl
  | depth d => rfl
  | rate r =>
    rw [control, setRate]
    split <;> rfl
  | settings settings =>
    rw [control, Settings.apply, setDepth, setRate]
    split <;> rfl

/-! ### Decisions in a row -/

/-- The state after some decisions, with no change in between. -/
def after (s : Sampling) (n : Nat) : Sampling :=
  { s with decisions := s.decisions + UInt64.ofNat n }

@[simp]
theorem after_zero (s : Sampling) : s.after 0 = s := by simp [after]

theorem after_next (s : Sampling) (n : Nat) : s.next.2.after n = s.after (n + 1) := by
  have hsum : s.decisions + 1 + UInt64.ofNat n = s.decisions + UInt64.ofNat (n + 1) := by
    rw [UInt64.ofNat_add, UInt64.add_assoc, UInt64.add_comm 1]
    rfl
  rw [after, after, next]
  simp only [hsum]

/-- Decisions in a row admit nothing if none of them does. -/
theorem take_eq_nil_iff (s : Sampling) (n : Nat) :
    (s.take n).1 = [] ↔ ∀ k < n, (s.after k).admits = false := by
  induction n generalizing s with
  | zero => simp [take]
  | succ n ih =>
    have hrest : (s.next.2.take n).1 = [] ↔ ∀ k < n, (s.after (k + 1)).admits = false := by
      rw [ih]
      simp only [after_next]
    rw [Nat.forall_lt_succ_left, after_zero, ← hrest]
    rcases ha : s.admits with _ | _ <;> simp [take, next, ha]

/-- With the switch on and a positive rate some decision to come admits its event: at the latest the
one at which the number of decisions starts again from zero. -/
theorem exists_admits {s : Sampling} (hon : s.enabled = true) (hrate : 0 < s.rate) :
    ∃ k, (s.after k).admits = true := by
  have hlt : s.decisions.toNat < UInt64.size := s.decisions.toNat_lt
  -- so many decisions later the word has come round to zero, which every rate divides
  have hzero : (s.after (UInt64.size - s.decisions.toNat)).decisions = 0 := by
    rw [after]
    apply UInt64.toNat_inj.mp
    rw [UInt64.toNat_add, UInt64.toNat_ofNat', UInt64.toNat_zero]
    simp only [UInt64.size] at hlt ⊢
    omega
  refine ⟨UInt64.size - s.decisions.toNat, ?_⟩
  rw [admits, hzero, UInt64.toNat_zero, Nat.zero_mod]
  simp only [after, hon, hrate, decide_true, Bool.true_and, beq_self_eq_true]

/-- No decision to come is admitted exactly if the switch is off or the rate is not positive. -/
theorem never_admits_iff (s : Sampling) :
    (∀ k, (s.after k).admits = false) ↔ s.enabled = false ∨ s.rate ≤ 0 := by
  constructor
  · intro hnever
    rcases hon : s.enabled with _ | _
    · exact .inl rfl
    · refine .inr (Int.not_lt.mp fun hrate => ?_)
      obtain ⟨k, hk⟩ := exists_admits hon hrate
      exact Bool.false_ne_true ((hnever k).symm.trans hk)
  · rintro (hoff | hrate) k
    · simp [admits, after, hoff]
    · simp [admits, after, Int.not_lt.mpr hrate]

end Contention.Sampling
