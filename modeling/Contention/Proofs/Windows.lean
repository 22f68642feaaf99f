import Contention.Host

/-!
# Windows of a stack tile

A stack is handed out in **windows**: at most so many frames from a position on. `Scenario.window`
clamps the start to the stack, adds the number of frames, and clamps the sum. `window_eq_filter`
says what comes of the two clamps: the positions of the stack that are not before the start and
fewer than so many behind it, in ascending order. Windows that follow each other make up one window
(`window_append`).

The addition has no bound there. A host that computes in 64-bit words lets the sum **saturate** at
the largest one, as `wordWindow` does, and by `wordWindow_eq` it comes to the same. The main
statement is `stack_windows_tile`.
-/

namespace Contention

/-! ### Windows in numbers -/

namespace Scenario

/-- A window starts at its start and ends where the window that follows it starts, unless the stack
ends before. -/
theorem window_eq_range' (available start most : Nat) :
    window available start most = List.range' (min start available)
      (min (start + most) available - min start available) := by
  have hlast : min (min start available + most) available = min (start + most) available := by
    omega
  simp only [window, hlast]

private theorem mem_window {available start most i : Nat} :
    i ∈ window available start most ↔ i < available ∧ start ≤ i ∧ i - start < most := by
  simp only [window, List.mem_range'_1]
  omega

private theorem pairwise_window (available start most : Nat) :
    (window available start most).Pairwise (· < ·) :=
  List.pairwise_lt_range'

/-- **What is in a window**: the positions of the stack from `start` on that are fewer than `most`
behind it. -/
theorem window_eq_filter (available start most : Nat) :
    window available start most =
      (List.range available).filter fun i => start ≤ i ∧ i - start < most := by
  -- two ascending lists with the same members are equal
  refine List.Perm.eq_of_pairwise (fun a b _ _ hlt hlt' => absurd hlt' (Nat.lt_asymm hlt))
    (pairwise_window available start most) (List.pairwise_lt_range.filter _) ?_
  refine (List.perm_ext_iff_of_nodup ?_ (List.nodup_range.filter _)).mpr fun i => ?_
  · exact (pairwise_window available start most).imp Nat.ne_of_lt
  · simp [mem_window]

/-- **Windows that follow each other** make up one window. -/
theorem window_append (available start a b : Nat) :
    window available start a ++ window available (start + a) b =
      window available start (a + b) := by
  have hfirst : min start available ≤ min (start + a) available := by omega
  have hlater : min (start + a) available ≤ min (start + a + b) available := by omega
  rw [window_eq_range', window_eq_range', window_eq_range', ← Nat.add_assoc]
  generalize min start available = first at hfirst ⊢
  generalize min (start + a) available = mid at hfirst hlater ⊢
  obtain ⟨m, rfl⟩ := Nat.exists_eq_add_of_le hfirst
  obtain ⟨n, hn⟩ := Nat.exists_eq_add_of_le hlater
  rw [hn, Nat.add_sub_cancel_left, Nat.add_sub_cancel_left, List.range'_append_1, Nat.add_assoc,
    Nat.add_sub_cancel_left]

/-! ### Windows in words -/

/-- The sum of two words, or the largest word if the sum is too large for one. A sum that wraps
around is smaller than what was added to. -/
def saturatingAdd (a b : UInt64) : UInt64 := if a + b < a then -1 else a + b

/-- A window computed in words. -/
def wordWindow (available start most : UInt64) : List Nat :=
  let first := min start available
  let last := min (saturatingAdd first most) available
  List.range' first.toNat (last.toNat - first.toNat)

private theorem toNat_saturatingAdd (a b : UInt64) :
    (saturatingAdd a b).toNat = min (a.toNat + b.toNat) (UInt64.size - 1) := by
  have ha := a.toNat_lt
  have hb := b.toNat_lt
  rw [saturatingAdd]
  split
  · next hwrapped =>
    rw [UInt64.lt_iff_toNat_lt, UInt64.toNat_add] at hwrapped
    have hlarge : UInt64.size - 1 ≤ a.toNat + b.toNat := by
      rw [UInt64.size]
      omega
    exact (Nat.min_eq_right hlarge).symm
  · next hsum =>
    rw [UInt64.lt_iff_toNat_lt, UInt64.toNat_add] at hsum
    rw [UInt64.toNat_add, UInt64.size]
    omega

private theorem toNat_min_word (a b : UInt64) : (min a b).toNat = min a.toNat b.toNat := by
  have hmin : min a b = if a ≤ b then a else b := rfl
  rw [hmin]
  split
  · next hle => exact (Nat.min_eq_left (UInt64.le_iff_toNat_le.mp hle)).symm
  · next hnle =>
    exact (Nat.min_eq_right (Nat.le_of_not_le (mt UInt64.le_iff_toNat_le.mpr hnle))).symm

/-- **Saturation does no harm.** A sum that is too large for a word is past the end of a stack whose
length is one. -/
theorem wordWindow_eq (available start most : UInt64) :
    wordWindow available start most = window available.toNat start.toNat most.toNat := by
  have havailable := available.toNat_lt
  have hsaturated : ∀ sum,
      min (min sum (UInt64.size - 1)) available.toNat = min sum available.toNat := by
    rw [UInt64.size]
    omega
  simp only [wordWindow, window, toNat_min_word, toNat_saturatingAdd, hsaturated]

end Scenario

/-! ### Windows of a host -/

/-- A host that keeps to what it is asked for hands out a window of the stack. -/
private theorem Host.stackTrace_eq_window {h : Host} {thread : Nat} {t : ScriptedThread}
    (hmodest : h.conduct.greedy = false) (ht : h.scenario.threads[thread]? = some t)
    (hgiven : t.failStackTrace = false) (start most : Nat) :
    (h.stackTrace thread start most).1 =
      .ok ((Scenario.window t.frames.length start most).map fun i => ⟨thread, i⟩) := by
  simp [stackTrace, serve, Scenario.stackTrace, Scenario.threadOf, hmodest, ht, hgiven, bind,
    Except.bind]

/-- **Windows of a stack tile.** Let a host that keeps to what it is asked for hand out the stack
of a thread that exists and whose stack is not refused, from any word `start` on and at most any
word `most` of frames. The methods are those at the positions of the stack that are not before
`start` and fewer than `most` behind it, in ascending order, and each of them stands for a frame of
that thread. So two windows of which the second starts where the first ends are one window,
provided that the end and the common length are words. It makes no difference that a host adds in
words and lets the sum saturate. -/
theorem stack_windows_tile {h : Host} {thread : Nat} {t : ScriptedThread}
    (hmodest : h.conduct.greedy = false) (ht : h.scenario.threads[thread]? = some t)
    (hgiven : t.failStackTrace = false) :
    let trace (start most : UInt64) := (h.stackTrace thread start.toNat most.toNat).1
    (∀ start most, trace start most =
      .ok (((List.range t.frames.length).filter fun i =>
        start.toNat ≤ i ∧ i - start.toNat < most.toNat).map fun i => ⟨thread, i⟩)) ∧
      (∀ start most methods, trace start most = .ok methods →
        methods.Pairwise (fun m m' => m.frame < m'.frame) ∧
        ∀ m ∈ methods, m.thread = thread ∧ ∃ f, t.frames[m.frame]? = some f ∧
          ∀ call, h.scenario.frameOf m.thread m.frame call = .ok f) ∧
      (∀ start a b : UInt64, start.toNat + a.toNat < UInt64.size →
          a.toNat + b.toNat < UInt64.size →
        ∃ top deeper, trace start a = .ok top ∧ trace (start + a) b = .ok deeper ∧
          trace start (a + b) = .ok (top ++ deeper)) ∧
      ∀ available start most : UInt64, available.toNat = t.frames.length →
        trace start most =
          .ok ((Scenario.wordWindow available start most).map fun i => ⟨thread, i⟩) := by
  intro trace
  have htrace : ∀ start most : UInt64, trace start most = .ok
      ((Scenario.window t.frames.length start.toNat most.toNat).map fun i => ⟨thread, i⟩) :=
    fun start most => Host.stackTrace_eq_window hmodest ht hgiven start.toNat most.toNat
  refine ⟨fun start most => ?_, ?_, ?_, ?_⟩
  · rw [htrace, Scenario.window_eq_filter]
  · intro start most methods hmethods
    obtain rfl := Except.ok.inj ((htrace start most).symm.trans hmethods)
    refine ⟨List.pairwise_map.mpr (Scenario.pairwise_window _ _ _), fun m hm => ?_⟩
    obtain ⟨i, hi, rfl⟩ := List.mem_map.mp hm
    have hlt : i < t.frames.length := (Scenario.mem_window.mp hi).1
    have hframe : t.frames[i]? = some t.frames[i] := List.getElem?_eq_getElem hlt
    refine ⟨rfl, _, hframe, fun call => ?_⟩
    simp [Scenario.frameOf, ht, hframe]
  · intro start a b hend hlength
    have hstart : (start + a).toNat = start.toNat + a.toNat := by
      rw [UInt64.toNat_add, Nat.mod_eq_of_lt hend]
    have hmost : (a + b).toNat = a.toNat + b.toNat := by
      rw [UInt64.toNat_add, Nat.mod_eq_of_lt hlength]
    refine ⟨_, _, htrace start a, htrace (start + a) b, ?_⟩
    rw [htrace, hstart, hmost, ← Scenario.window_append, List.map_append]
  · intro available start most havailable
    rw [htrace, Scenario.wordWindow_eq, havailable]

/-- The last two frames of six, taken one by one: the second window reaches so far that the sum of
its start and its length is too large for a word. -/
theorem stack_windows_tile_lastTwo :
    let frame : ScriptedFrame := ⟨"LA;", "m", "()V", none⟩
    let host : Host :=
      { scenario := { threads := [{ name := "t", frames := List.replicate 6 frame }] } }
    let trace (start most : UInt64) := (host.stackTrace 0 start.toNat most.toNat).1
    (4 : UInt64).toNat + (1 : UInt64).toNat < UInt64.size ∧
      (1 : UInt64).toNat + (-2 : UInt64).toNat < UInt64.size ∧
      UInt64.size ≤ (5 : UInt64).toNat + (-2 : UInt64).toNat ∧
      trace 4 1 = .ok [⟨0, 4⟩] ∧ trace 5 (-2) = .ok [⟨0, 5⟩] ∧
      trace 4 (-1) = .ok [⟨0, 4⟩, ⟨0, 5⟩] := by
  intro frame host trace
  obtain ⟨hlisted, -, htile, -⟩ := @stack_windows_tile host 0
    { name := "t", frames := List.replicate 6 frame } rfl rfl rfl
  have hend : (4 : UInt64).toNat + (1 : UInt64).toNat < UInt64.size := by decide
  have hlength : (1 : UInt64).toNat + (-2 : UInt64).toNat < UInt64.size := by decide
  have hfirst : trace 4 1 = .ok [⟨0, 4⟩] := hlisted 4 1
  have hsecond : trace 5 (-2) = .ok [⟨0, 5⟩] := hlisted 5 (-2)
  obtain ⟨top, deeper, htop, hdeeper, hwhole⟩ := htile 4 1 (-2) hend hlength
  obtain rfl := Except.ok.inj (hfirst.symm.trans htop)
  obtain rfl := Except.ok.inj (hsecond.symm.trans hdeeper)
  exact ⟨hend, hlength, by decide, hfirst, hsecond, hwhole⟩

end Contention
