import Mathlib.Data.List.TakeWhile
import Mathlib.Tactic.Common
import Contention.Proofs.Stack

/-!
# How much of a stack a capture shows

A capture looks at a **window**, the first frames of a stack up to the depth asked for and never
more than `maxDepth`. It shows the longest beginning of the window in which no failure is planted,
its sound top (`IsSoundTop`). `ScriptedThread.soundTop` computes it, and
`Scenario.captured?_of_thread` says what a capture comes to in its terms.

`capture_shows_sound_top` is the main statement. There is no stack exactly if no frame can be shown;
otherwise the sound top is shown, and it counts as truncated exactly if it is not the whole window.
The rest follows from facts about sound tops: frames behind the window or behind a failure have no
part in them (`ScriptedThread.LookAlike.soundTop_eq`), and the sound top of a deeper window starts
with that of the other one (`ScriptedThread.soundTop_mono`).
-/

namespace Contention

/-- `top` is the **sound top** of a window: the longest of its beginnings in which no failure is
planted. -/
structure IsSoundTop (top window : List ScriptedFrame) : Prop where
  begins : top <+: window
  sound : ∀ f ∈ top, f.fail = none
  longest : ∀ other, other <+: window → (∀ f ∈ other, f.fail = none) → other.length ≤ top.length

theorem ScriptedFrame.isSound_iff (f : ScriptedFrame) : f.isSound = true ↔ f.fail = none :=
  Option.isNone_iff_eq_none

/-! ### Sound tops -/

theorem isSoundTop_takeWhile (window : List ScriptedFrame) :
    IsSoundTop (window.takeWhile ScriptedFrame.isSound) window where
  begins := List.takeWhile_prefix _
  sound f hf := f.isSound_iff.mp (List.mem_takeWhile_imp hf)
  longest := by
    rintro other ⟨deeper, rfl⟩ hsound
    rw [List.takeWhile_append_of_pos fun f hf => f.isSound_iff.mpr (hsound f hf),
      List.length_append]
    exact Nat.le_add_right _ _

namespace IsSoundTop

variable {top window other deeper : List ScriptedFrame}

/-- Any beginning without a failure is a beginning of the sound top. -/
private theorem begins_of_sound (h : IsSoundTop top window) (hother : other <+: window)
    (hsound : ∀ f ∈ other, f.fail = none) : other <+: top :=
  List.prefix_of_prefix_length_le hother h.begins (h.longest other hother hsound)

/-- The sound top falls short of its window exactly if a failure is planted in the window. -/
private theorem length_lt_iff (h : IsSoundTop top window) :
    top.length < window.length ↔ ∃ f ∈ window, f.fail ≠ none := by
  constructor
  · intro hlt
    by_contra hnone
    have hall : ∀ f ∈ window, f.fail = none := fun f hf =>
      Classical.not_not.mp fun hfail => hnone ⟨f, hf, hfail⟩
    exact Nat.not_le.mpr hlt (h.longest window (List.prefix_refl _) hall)
  · rintro ⟨f, hf, hfail⟩
    refine Nat.lt_of_le_of_ne h.begins.length_le fun heq => hfail (h.sound f ?_)
    rwa [h.begins.eq_of_length heq]

/-- Without a first frame that is sound there is no sound top. -/
private theorem eq_nil_iff (h : IsSoundTop top window) :
    top = [] ↔ ∀ f rest, window = f :: rest → f.fail ≠ none := by
  constructor
  · rintro rfl f rest rfl hf
    have hone : [f] <+: f :: rest := ⟨rest, rfl⟩
    simpa using h.longest [f] hone (by simpa using hf)
  · intro hfirst
    rcases top with _ | ⟨f, top⟩
    · rfl
    · obtain ⟨rest, hrest⟩ := h.begins
      exact absurd (h.sound f (by simp)) (hfirst f (top ++ rest) hrest.symm)

end IsSoundTop

/-! ### The view of a thread -/

namespace ScriptedThread

/-- The frames that a capture looks at. -/
def window (t : ScriptedThread) (depth : Nat) : List ScriptedFrame :=
  t.frames.take (min depth maxDepth)

/-- The frames that a capture shows. -/
def soundTop (t : ScriptedThread) (depth : Nat) : List ScriptedFrame :=
  (t.window depth).takeWhile ScriptedFrame.isSound

theorem isSoundTop_soundTop (t : ScriptedThread) (depth : Nat) :
    IsSoundTop (t.soundTop depth) (t.window depth) :=
  isSoundTop_takeWhile _

/-- No frame is shown exactly if none is asked for, there is none, or the first one fails. -/
theorem soundTop_eq_nil_iff (t : ScriptedThread) (depth : Nat) :
    t.soundTop depth = [] ↔
      depth = 0 ∨ t.frames = [] ∨ ∃ f rest, t.frames = f :: rest ∧ f.fail ≠ none := by
  rw [(t.isSoundTop_soundTop depth).eq_nil_iff]
  rcases depth with _ | depth
  · simp [window]
  have hmost : min (depth + 1) maxDepth = min depth 127 + 1 := by
    rw [maxDepth]
    omega
  rcases hframes : t.frames with _ | ⟨first, deeper⟩
  · simp [window, hframes]
  · simp [window, hframes, hmost]

private theorem soundTop_mono (t : ScriptedThread) {depth deeper : Nat} (h : depth ≤ deeper) :
    t.soundTop depth <+: t.soundTop deeper := by
  have hmost : min depth maxDepth ≤ min deeper maxDepth := by omega
  have hwindow : t.window depth <+: t.window deeper := List.take_prefix_take_left hmost
  have htop := t.isSoundTop_soundTop depth
  exact (t.isSoundTop_soundTop deeper).begins_of_sound (htop.begins.trans hwindow) htop.sound

/-- Two stacks **look alike** at a depth if they agree in the window, or up to a failure that is
planted in both. -/
def LookAlike (depth : Nat) (t t' : ScriptedThread) : Prop :=
  t.window depth = t'.window depth ∨
    ∃ kept failing rest rest', failing.fail ≠ none ∧
      t.frames = kept ++ failing :: rest ∧ t'.frames = kept ++ failing :: rest'

/-- The frames behind a failure are not looked at: it lies behind the window itself, or it ends the
sound top. -/
private theorem window_of_failing {t : ScriptedThread} {kept rest : List ScriptedFrame}
    {failing : ScriptedFrame} (hframes : t.frames = kept ++ failing :: rest) (depth : Nat) :
    t.window depth = kept.take (min depth maxDepth) ∧ min depth maxDepth ≤ kept.length ∨
      ∃ shown, t.window depth = kept ++ failing :: shown ∧ kept.length < min depth maxDepth := by
  rw [window, hframes]
  rcases Nat.lt_or_ge kept.length (min depth maxDepth) with hlt | hge
  · refine .inr ⟨rest.take (min depth maxDepth - kept.length - 1), ?_, hlt⟩
    obtain ⟨more, hmore⟩ : ∃ more, min depth maxDepth - kept.length = more + 1 :=
      ⟨min depth maxDepth - kept.length - 1, by omega⟩
    rw [List.take_append, List.take_of_length_le hlt.le, hmore, List.take_succ_cons,
      Nat.add_sub_cancel]
  · exact .inl ⟨List.take_append_of_le_length hge, hge⟩

/-- Stacks that look alike show the same frames, and both of them fall short of their windows or
neither does. -/
theorem LookAlike.soundTop_eq {t t' : ScriptedThread} {depth : Nat} (h : LookAlike depth t t') :
    t.soundTop depth = t'.soundTop depth ∧
      ((∃ f ∈ t.window depth, f.fail ≠ none) ↔ ∃ f ∈ t'.window depth, f.fail ≠ none) := by
  rcases h with hwindow | ⟨kept, failing, rest, rest', hfail, hframes, hframes'⟩
  · simp [soundTop, hwindow]
  -- the failure is at the same place in both, so both windows reach it or neither does
  rcases window_of_failing hframes depth with ⟨hwindow, hle⟩ | ⟨shown, hwindow, hlt⟩ <;>
    rcases window_of_failing hframes' depth with ⟨hwindow', hle'⟩ | ⟨shown', hwindow', hlt'⟩
  · simp [soundTop, hwindow, hwindow']
  · omega
  · omega
  · have hunsound : failing.isSound = false :=
      Bool.eq_false_iff.mpr (mt failing.isSound_iff.mp hfail)
    constructor
    · simp [soundTop, hwindow, hwindow', List.takeWhile_append, hunsound]
    · rw [hwindow, hwindow']
      exact iff_of_true ⟨failing, by simp, hfail⟩ ⟨failing, by simp, hfail⟩

end ScriptedThread

/-! ### Captures -/

/-- What a capture of a thread that exists comes to. -/
theorem Scenario.captured?_of_thread {s : Scenario} {thread : Nat} {t : ScriptedThread}
    (ht : s.threads[thread]? = some t) (depth : Nat) :
    s.captured? thread depth =
      if t.failStackTrace = true ∨ t.soundTop depth = [] then none
      else some ⟨(t.soundTop depth).map ScriptedFrame.descriptor,
        decide ((t.soundTop depth).length < (t.window depth).length)⟩ := by
  rw [captured?, ht]
  rfl

/-- A thread whose stack was captured exists, and what was captured is its sound top. -/
private theorem Scenario.of_captured? {s : Scenario} {thread depth : Nat} {stack : CapturedStack}
    (h : s.captured? thread depth = some stack) :
    ∃ t, s.threads[thread]? = some t ∧ t.failStackTrace = false ∧ t.soundTop depth ≠ [] ∧
      stack = ⟨(t.soundTop depth).map ScriptedFrame.descriptor,
        decide ((t.soundTop depth).length < (t.window depth).length)⟩ := by
  rcases ht : s.threads[thread]? with _ | t
  · simp [captured?, ht] at h
  rw [captured?_of_thread ht] at h
  split at h
  · cases h
  · next hshown =>
    rw [not_or, Bool.not_eq_true] at hshown
    exact ⟨t, rfl, hshown.1, hshown.2, (Option.some.inj h).symm⟩

theorem Scenario.captured?_eq_none_iff (s : Scenario) (thread depth : Nat) :
    s.captured? thread depth = none ↔
      depth = 0 ∨ s.threads[thread]? = none ∨ ∃ t, s.threads[thread]? = some t ∧
        (t.failStackTrace = true ∨ t.frames = [] ∨
          ∃ f rest, t.frames = f :: rest ∧ f.fail ≠ none) := by
  rcases ht : s.threads[thread]? with _ | t
  · simp [captured?, ht]
  · rw [captured?_of_thread ht, ite_eq_left_iff, imp_iff_not_or, not_not,
      t.soundTop_eq_nil_iff depth]
    simpa using or_left_comm

/-- Threads that look alike are captured alike, in whatever scenarios they stand. -/
theorem Scenario.captured?_congr {s s' : Scenario} {thread thread' depth : Nat}
    {t t' : ScriptedThread} (ht : s.threads[thread]? = some t)
    (ht' : s'.threads[thread']? = some t') (hrefused : t.failStackTrace = t'.failStackTrace)
    (halike : t.LookAlike depth t') : s.captured? thread depth = s'.captured? thread' depth := by
  obtain ⟨htops, hfailing⟩ := halike.soundTop_eq
  have hcut : (t.soundTop depth).length < (t.window depth).length ↔
      (t'.soundTop depth).length < (t'.window depth).length := by
    rw [(t.isSoundTop_soundTop depth).length_lt_iff, hfailing,
      (t'.isSoundTop_soundTop depth).length_lt_iff]
  rw [captured?_of_thread ht, captured?_of_thread ht', hrefused, decide_eq_decide.mpr hcut, htops]

/-- A larger depth shows what a smaller one does, and possibly more. -/
theorem Scenario.captured?_mono {s : Scenario} {thread depth deeper : Nat} {stack : CapturedStack}
    (h : s.captured? thread depth = some stack) (hle : depth ≤ deeper) :
    ∃ more, s.captured? thread deeper = some more ∧ stack.frames <+: more.frames := by
  obtain ⟨t, ht, hgiven, hshown, rfl⟩ := of_captured? h
  have hmore := t.soundTop_mono hle
  have hshown' : t.soundTop deeper ≠ [] := fun hnil =>
    hshown (List.prefix_nil.mp (hnil ▸ hmore))
  rw [captured?_of_thread ht, if_neg (by simp [hgiven, hshown'])]
  exact ⟨_, rfl, hmore.map _⟩

/-- **A capture shows the sound top of its window.** It comes to nothing exactly if no frame is
asked for, the thread does not exist, its stack is refused, it is empty, or its first frame fails.
Otherwise it shows the longest beginning of the window in which no failure is planted, and it is
truncated exactly if this is not the whole window, which is to say if a failure is planted in the
window. Frames behind the window or behind a failure never matter, and what is shown at a depth is
the beginning of what is shown at any larger one. -/
theorem capture_shows_sound_top (h : Host) (thread depth : Nat) :
    let shown := (h.capture thread depth).result
    let thread? := h.scenario.threads[thread]?
    (shown = none ↔
        depth = 0 ∨ thread? = none ∨ ∃ t, thread? = some t ∧
          (t.failStackTrace = true ∨ t.frames = [] ∨
            ∃ f rest, t.frames = f :: rest ∧ f.fail ≠ none)) ∧
      (∀ stack, shown = some stack → ∃ t top, thread? = some t ∧
        IsSoundTop top (t.frames.take (min depth maxDepth)) ∧
        stack.frames = top.map ScriptedFrame.descriptor ∧
        (stack.truncated = true ↔ top.length < (t.frames.take (min depth maxDepth)).length) ∧
        (stack.truncated = true ↔ ∃ f ∈ t.frames.take (min depth maxDepth), f.fail ≠ none)) ∧
      (∀ t t' (other : Host) (thread' : Nat), thread? = some t →
        other.scenario.threads[thread']? = some t' → t.failStackTrace = t'.failStackTrace →
        t.LookAlike depth t' → shown = (other.capture thread' depth).result) ∧
      ∀ (other : Host) (deeper : Nat), other.scenario = h.scenario → depth ≤ deeper →
        ∀ stack, shown = some stack → ∃ more,
          (other.capture thread deeper).result = some more ∧ stack.frames <+: more.frames := by
  have hresult : ∀ (host : Host) (thread depth : Nat),
      (host.capture thread depth).result = host.scenario.captured? thread depth :=
    fun host thread depth => (host.capture_spec thread depth).1
  simp only [hresult]
  refine ⟨h.scenario.captured?_eq_none_iff thread depth, ?_, ?_, ?_⟩
  · intro stack hstack
    obtain ⟨t, ht, -, -, rfl⟩ := Scenario.of_captured? hstack
    have htop := t.isSoundTop_soundTop depth
    exact ⟨t, t.soundTop depth, ht, htop, rfl, decide_eq_true_iff,
      decide_eq_true_iff.trans htop.length_lt_iff⟩
  · intro t t' other thread' ht ht' hrefused halike
    exact Scenario.captured?_congr ht ht' hrefused halike
  · intro other deeper hsame hle stack hstack
    rw [hsame]
    exact Scenario.captured?_mono hstack hle

/-- Two threads whose stacks agree up to their third frames, in which failures are planted. -/
def thirdFrameFails : Scenario where
  threads :=
    let top : List ScriptedFrame :=
      [⟨"LQueue;", "take", "()V", none⟩, ⟨"LPool;", "next", "()V", none⟩,
        ⟨"LPool;", "run", "()V", some .declaringClass⟩]
    [{ name := "a", frames := top ++ [⟨"LMain;", "main", "()V", none⟩] },
     { name := "b", frames := top }]

/-- The failure is just outside the window at depth two, where nothing is truncated, and just inside
it at depth three. The frames behind it are not missed. -/
theorem capture_shows_sound_top_thirdFrameFails :
    let host : Host := { scenario := thirdFrameFails }
    let frames : List Frame := [⟨"LQueue;", "take", "()V"⟩, ⟨"LPool;", "next", "()V"⟩]
    (host.capture 0 2).result = some ⟨frames, false⟩ ∧
      (∃ more, (host.capture 0 3).result = some more ∧ frames <+: more.frames) ∧
      (host.capture 0 3).result = some ⟨frames, true⟩ ∧
      (∃ t, thirdFrameFails.threads[0]? = some t ∧ ∃ f ∈ t.frames.take 3, f.fail ≠ none) ∧
      (host.capture 0 3).result = (host.capture 1 3).result := by
  intro host frames
  have htwo : (host.capture 0 2).result = some ⟨frames, false⟩ := by decide
  have hthree : (host.capture 0 3).result = some ⟨frames, true⟩ := by decide
  obtain ⟨-, -, -, hdeeper⟩ := capture_shows_sound_top host 0 2
  obtain ⟨-, hshown, halike, -⟩ := capture_shows_sound_top host 0 3
  obtain ⟨t, top, ht, -, -, -, hcut⟩ := hshown _ hthree
  refine ⟨htwo, hdeeper host 3 rfl (by decide) _ htwo, hthree, ⟨t, ht, hcut.mp rfl⟩,
    halike _ _ host 1 rfl rfl rfl (.inr ?_)⟩
  exact ⟨[⟨"LQueue;", "take", "()V", none⟩, ⟨"LPool;", "next", "()V", none⟩],
    ⟨"LPool;", "run", "()V", some .declaringClass⟩, _, _, by decide, rfl, rfl⟩

end Contention
