import Mathlib.Algebra.Order.Floor.Div
import Mathlib.Data.Rat.Floor
import Contention.Proofs.Sampling

/-!
# The share of admitted decisions

With the switch on, a row of decisions admits those whose numbers are multiples of the rate
(`take_numbers`). There is one of them in each stretch as long as the rate, wherever it begins, and
so the numbers admitted are an arithmetic progression: it starts at the first multiple not below
the number that the row begins with, and its step is the rate (`filter_dvd_range'`).

`share_exact` is the main statement. It counts the admitted decisions of a row that begins with any
number and is of any length, as long as the number of decisions does not wrap around.
-/

namespace Contention

/-! ### Multiples in a stretch of numbers -/

section Multiples

variable {rate : Nat} (hrate : 0 < rate)

include hrate

private theorem ceilDiv_succ (n : Nat) :
    (n + 1) ⌈/⌉ rate = n ⌈/⌉ rate + if rate ∣ n then 1 else 0 := by
  have hnext : n + 1 + rate - 1 = n + rate - 1 + 1 := by omega
  have hsame : n + rate - 1 + 1 = n + rate := by omega
  rw [Nat.ceilDiv_eq_add_pred_div, Nat.ceilDiv_eq_add_pred_div, hnext, Nat.succ_div, hsame]
  simp only [Nat.dvd_add_self_right]

private theorem ceilDiv_add_self (n : Nat) : (n + rate) ⌈/⌉ rate = n ⌈/⌉ rate + 1 := by
  have hnext : n + rate + rate - 1 = n + rate - 1 + rate := by omega
  rw [Nat.ceilDiv_eq_add_pred_div, Nat.ceilDiv_eq_add_pred_div, hnext,
    Nat.add_div_right _ hrate]

private theorem mul_ceilDiv_of_dvd {n : Nat} (h : rate ∣ n) : rate * (n ⌈/⌉ rate) = n := by
  obtain ⟨q, rfl⟩ := h
  exact congrArg (rate * ·) (smul_ceilDiv hrate q)

/-- The multiples of the rate among numbers that follow each other. -/
theorem filter_dvd_range' (c n : Nat) :
    (List.range' c n).filter (rate ∣ ·) =
      List.range' (rate * (c ⌈/⌉ rate)) ((c + n) ⌈/⌉ rate - c ⌈/⌉ rate) rate := by
  induction n with
  | zero => simp
  | succ n ih =>
    have hmono : c ⌈/⌉ rate ≤ (c + n) ⌈/⌉ rate :=
      (gc_mul_ceilDiv hrate).monotone_l (Nat.le_add_right c n)
    rw [List.range'_1_concat, List.filter_append, ih, ← Nat.add_assoc, ceilDiv_succ hrate]
    by_cases hdvd : rate ∣ c + n
    · -- the number at the end is the next one of the progression
      have hlast : rate * (c ⌈/⌉ rate) + rate * ((c + n) ⌈/⌉ rate - c ⌈/⌉ rate) = c + n := by
        rw [← Nat.mul_add, Nat.add_sub_cancel' hmono, mul_ceilDiv_of_dvd hrate hdvd]
      rw [if_pos hdvd, Nat.sub_add_comm hmono, List.range'_concat, hlast]
      simp [hdvd]
    · simp [hdvd]

/-- Rounding a quotient up among the rational numbers and among the natural ones. -/
private theorem ceil_div_eq (n : Nat) : ⌈(n : ℚ) / rate⌉ = ((n ⌈/⌉ rate : Nat) : ℤ) := by
  have hpos : (0 : ℚ) < rate := by exact_mod_cast hrate
  have hceil : ⌈(n : ℚ) / rate⌉₊ = n ⌈/⌉ rate := by
    refine eq_of_forall_ge_iff fun q => ?_
    rw [Nat.ceil_le, div_le_iff₀ hpos, ceilDiv_le_iff_le_mul hrate, Nat.mul_comm]
    exact_mod_cast Iff.rfl
  rw [← hceil, Int.natCast_ceil_eq_ceil (div_nonneg n.cast_nonneg hpos.le)]

end Multiples

/-! ### Rows of decisions -/

namespace Sampling

private theorem toNat_decisions_after {s : Sampling} {k : Nat}
    (hfit : s.decisions.toNat + k < UInt64.size) :
    (s.after k).decisions.toNat = s.decisions.toNat + k := by
  have hk : k < UInt64.size := by omega
  rw [after, UInt64.toNat_add, UInt64.toNat_ofNat_of_lt' hk]
  exact Nat.mod_eq_of_lt hfit

/-- With the switch on, a decision admits its event if its number is a multiple of the rate. -/
private theorem admits_after_iff {s : Sampling} (hon : s.enabled = true) (hrate : 0 < s.rate)
    {k : Nat} (hfit : s.decisions.toNat + k < UInt64.size) :
    (s.after k).admits = decide (s.rate.toNat ∣ s.decisions.toNat + k) := by
  rw [admits, toNat_decisions_after hfit]
  simp only [after, hon, hrate, decide_true, Bool.true_and, Nat.dvd_iff_mod_eq_zero]
  rfl

/-- A row of decisions, one by one. -/
private theorem take_eq (s : Sampling) (n : Nat) :
    s.take n = (((List.range n).filter fun k => (s.after k).admits).map
      fun k => (s.after k).decisions, s.after n) := by
  induction n generalizing s with
  | zero => simp [take]
  | succ n ih =>
    have hlater : s.next.2.take n =
        (((List.range n).filter fun k => (s.after (k + 1)).admits).map
          fun k => (s.after (k + 1)).decisions, s.after (n + 1)) := by
      simp only [ih, after_next]
    have htake : s.take (n + 1) =
        (if s.admits then s.decisions :: (s.next.2.take n).1 else (s.next.2.take n).1,
          (s.next.2.take n).2) := rfl
    rw [htake, hlater, List.range_succ_eq_map]
    rcases ha : s.admits with _ | _ <;> simp [ha, List.filter_map, Function.comp_def]

/-- **The decisions admitted in a row are those whose numbers are multiples of the rate.** -/
theorem take_numbers {s : Sampling} (hon : s.enabled = true) (hrate : 0 < s.rate) {n : Nat}
    (hfit : s.decisions.toNat + n ≤ UInt64.size) :
    (s.take n).1.map UInt64.toNat =
      (List.range' s.decisions.toNat n).filter (s.rate.toNat ∣ ·) := by
  have hlt : ∀ k ∈ List.range n, s.decisions.toNat + k < UInt64.size := fun k hk => by
    have := List.mem_range.mp hk
    omega
  rw [take_eq, List.map_map, List.range'_eq_map_range, List.filter_map]
  rw [List.filter_congr fun k hk => admits_after_iff hon hrate (hlt k hk)]
  refine List.map_congr_left fun k hk => ?_
  exact toNat_decisions_after (hlt k (List.mem_of_mem_filter hk))

/-- How many decisions are admitted in a row, and which. -/
private theorem take_progression {s : Sampling} (hon : s.enabled = true) (hrate : 0 < s.rate)
    {n : Nat} (hfit : s.decisions.toNat + n ≤ UInt64.size) :
    (s.take n).1.map UInt64.toNat =
      List.range' (s.rate.toNat * (s.decisions.toNat ⌈/⌉ s.rate.toNat))
        ((s.decisions.toNat + n) ⌈/⌉ s.rate.toNat - s.decisions.toNat ⌈/⌉ s.rate.toNat)
        s.rate.toNat := by
  rw [take_numbers hon hrate hfit, filter_dvd_range' (Int.pos_iff_toNat_pos.mp hrate)]

theorem length_take {s : Sampling} (hon : s.enabled = true) (hrate : 0 < s.rate) {n : Nat}
    (hfit : s.decisions.toNat + n ≤ UInt64.size) :
    (s.take n).1.length =
      (s.decisions.toNat + n) ⌈/⌉ s.rate.toNat - s.decisions.toNat ⌈/⌉ s.rate.toNat := by
  have hlength := congrArg List.length (take_progression hon hrate hfit)
  rwa [List.length_map, List.length_range'] at hlength

/-- **The share of admitted decisions is exact.** Let the switch be on, and let the next decision
have any number. Among `n` decisions in a row, with no change in between and with numbers below
`2 ^ 64`, as many are admitted as there are multiples of the rate among these numbers. A stretch as
long as the rate has exactly one of them, two that follow each other are one rate apart, and a row
that begins with the very first decision admits one decision in `rate`, rounded up. -/
theorem share_exact {s : Sampling} (hon : s.enabled = true) (hrate : 0 < s.rate) {n : Nat}
    (hfit : s.decisions.toNat + n ≤ UInt64.size) :
    let first := s.decisions.toNat
    let rate := s.rate.toNat
    let admitted := (s.take n).1.map UInt64.toNat
    (admitted.length : ℤ) = ⌈((first + n : ℕ) : ℚ) / rate⌉ - ⌈(first : ℚ) / rate⌉ ∧
      (∀ skipped, skipped + rate ≤ n → ((s.take skipped).2.take rate).1.length = 1) ∧
      admitted.IsChain (fun number next => next = number + rate) ∧
      (s.decisions = 0 → (admitted.length : ℤ) = ⌈(n : ℚ) / rate⌉) := by
  intro first rate admitted
  have hpos : 0 < rate := Int.pos_iff_toNat_pos.mp hrate
  have hcount : (admitted.length : ℤ) = ⌈((first + n : ℕ) : ℚ) / rate⌉ - ⌈(first : ℚ) / rate⌉ := by
    have hmono : first ⌈/⌉ rate ≤ (first + n) ⌈/⌉ rate :=
      (gc_mul_ceilDiv hpos).monotone_l (Nat.le_add_right first n)
    rw [List.length_map, length_take hon hrate hfit, ceil_div_eq hpos, ceil_div_eq hpos,
      Nat.cast_sub hmono]
  refine ⟨hcount, fun skipped hskipped => ?_, ?_, fun hfresh => ?_⟩
  · have hstart : (s.take skipped).2 = s.after skipped := by rw [take_eq]
    have hon' : (s.after skipped).enabled = true := hon
    have hrate' : (s.after skipped).rate = s.rate := rfl
    have hnumber : (s.after skipped).decisions.toNat = first + skipped :=
      toNat_decisions_after (by omega)
    rw [hstart, length_take hon' (hrate' ▸ hrate) (by omega), hnumber, hrate',
      ceilDiv_add_self hpos, Nat.add_sub_cancel_left]
  · have hprogression : admitted = List.range' _ _ rate := take_progression hon hrate hfit
    rw [hprogression]
    exact List.isChain_range' _ _ _
  · have hzero : first = 0 := congrArg UInt64.toNat hfresh
    rw [hcount, hzero]
    simp

/-- The last five decisions before the number of decisions wraps around. One in three is admitted:
the second and the last of them. -/
theorem share_exact_lastFive :
    let s : Sampling := { rate := 3, decisions := 18446744073709551611 }
    (s.take 5).1 = [18446744073709551612, 18446744073709551615] ∧
      (((s.take 5).1.map UInt64.toNat).length : ℤ) =
        ⌈((18446744073709551611 + 5 : ℕ) : ℚ) / 3⌉ - ⌈((18446744073709551611 : ℕ) : ℚ) / 3⌉ ∧
      ((s.take 2).2.take 3).1.length = 1 ∧
      ((s.take 5).1.map UInt64.toNat).IsChain fun number next => next = number + 3 := by
  intro s
  obtain ⟨hcount, hone, hchain, -⟩ :=
    share_exact rfl (by decide) (by decide : s.decisions.toNat + 5 ≤ UInt64.size)
  exact ⟨by decide, hcount, hone 2 (by decide), hchain⟩

end Sampling

end Contention
