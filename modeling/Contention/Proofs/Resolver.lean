import Mathlib.Tactic.Common
import Contention.Proofs.Stack

/-!
# Resolvers stop for good

A `FrameResolver` is called again and again, and each call describes the next method. There are two
ways in which it ends, at the end of its methods and at a method that fails, and in both of them
`remaining` is zero. From then on a call does nothing at all (`FrameResolver.next_of_done`); it is
this that makes a resolver **fused**.

`FrameResolver.after` is what a resolver and its host have come to after some calls, and
`FrameResolver.given` what a call gives. Both follow the methods one by one (`next_cons`), so that
they are told by the scenario alone: `given_eq_some_iff` and `failure_after`. `Host.resolveAll_eq`
ties resolvers to captures, which resolve a whole window at once. The main statement is
`resolver_fused`.
-/

namespace Contention

/-! ### Methods and their frames -/

namespace Scenario

/-- The frame that a method stands for, if there is one. -/
def frame? (s : Scenario) (m : Method) : Option ScriptedFrame :=
  s.threads[m.thread]?.bind fun t => t.frames[m.frame]?

/-- The error of describing a method. Without a frame the first question is refused already. -/
def trouble? (s : Scenario) (m : Method) : Option HostError :=
  match s.frame? m with
  | none => some (.invalidHandle .methodName)
  | some f => f.fail.map fun failure => .failed failure.call plantedCode

/-- What resolving a method comes to, told by its frame. -/
theorem resolution_eq_frame? (s : Scenario) (m : Method) :
    s.resolution m =
      match s.frame? m with
      | none => .error (.invalidHandle .methodName)
      | some f => f.resolution := by
  rcases hframe : s.frame? m with _ | f
  · simp only [frame?] at hframe
    simp [resolution, methodName, frameUnless, frameOf, hframe, bind, Except.bind]
  · obtain ⟨t, ht, hf⟩ := Option.bind_eq_some_iff.mp hframe
    exact resolution_eq ht hf

/-- A method is described exactly if it stands for a frame without a failure. -/
theorem resolution_eq_ok_iff {s : Scenario} {m : Method} {frame : Frame} :
    s.resolution m = .ok frame ↔
      ∃ f, s.frame? m = some f ∧ f.fail = none ∧ f.descriptor = frame := by
  rw [resolution_eq_frame?]
  rcases s.frame? m with _ | f
  · simp
  · rcases hfail : f.fail with _ | failure <;> simp [ScriptedFrame.resolution, hfail]

/-- The error of describing a method, if there is one. -/
private theorem trouble?_eq (s : Scenario) (m : Method) :
    s.trouble? m =
      match s.resolution m with
      | .ok _ => none
      | .error e => some e := by
  rw [resolution_eq_frame?, trouble?]
  rcases s.frame? m with _ | f
  · rfl
  · rcases hfail : f.fail with _ | failure <;> simp [ScriptedFrame.resolution, hfail]

private theorem trouble?_eq_none_iff {s : Scenario} {m : Method} :
    s.trouble? m = none ↔ ∃ f, s.frame? m = some f ∧ f.fail = none := by
  rw [trouble?]
  rcases s.frame? m with _ | f <;> simp

end Scenario

namespace FrameResolver

/-! ### One call -/

/-- A resolver with nothing remaining does nothing. -/
private theorem next_of_done {r : FrameResolver} (hr : r.remaining = 0) (h : Host) :
    r.next h = ⟨(none, r), h, []⟩ := by
  obtain ⟨_ | ⟨m, rest⟩, _ | e⟩ := r
  · rfl
  · rfl
  · cases hr
  · rfl

/-- What a call does where a method is left and none has failed. -/
theorem next_cons (h : Host) (m : Method) (rest : List Method) :
    (next ⟨m :: rest, none⟩ h).result =
        match h.scenario.resolution m with
        | .ok frame => (some frame, ⟨rest, none⟩)
        | .error e => (none, ⟨rest, some e⟩) := by
  rw [← (h.resolve_spec m).1]
  rcases hr : h.resolve m with ⟨e | frame, h', log⟩ <;> simp [next, hr]

private theorem host_next_cons (h : Host) (m : Method) (rest : List Method) :
    (next ⟨m :: rest, none⟩ h).host = (h.resolve m).host := by
  rcases hr : h.resolve m with ⟨e | frame, h', log⟩ <;> simp [next, hr]

/-- **One call** gives a frame, and one fewer remains, or it gives none, and none remains. -/
theorem remaining_next (r : FrameResolver) (h : Host) :
    (∃ frame, (r.next h).result.1 = some frame ∧
        r.remaining = (r.next h).result.2.remaining + 1) ∨
      (r.next h).result.1 = none ∧ (r.next h).result.2.remaining = 0 := by
  by_cases hr : r.remaining = 0
  · rw [next_of_done hr]
    exact .inr ⟨rfl, hr⟩
  obtain ⟨_ | ⟨m, rest⟩, _ | e⟩ := r
  · exact absurd rfl hr
  · exact absurd rfl hr
  · rw [next_cons]
    rcases h.scenario.resolution m with e | frame
    · exact .inr ⟨rfl, rfl⟩
    · exact .inl ⟨frame, rfl, rfl⟩
  · exact absurd rfl hr

/-! ### Many calls -/

/-- A resolver and its host after `n` calls. -/
def after (r : FrameResolver) (h : Host) : Nat → FrameResolver × Host
  | 0 => (r, h)
  | n + 1 => (r.next h).result.2.after (r.next h).host n

/-- What the call with this number gives; the first one has number zero. -/
def given (r : FrameResolver) (h : Host) (number : Nat) : Option Frame :=
  ((r.after h number).1.next (r.after h number).2).result.1

private theorem after_add (r : FrameResolver) (h : Host) (n k : Nat) :
    r.after h (n + k) = (r.after h n).1.after (r.after h n).2 k := by
  induction n generalizing r h with
  | zero => rw [Nat.zero_add, after]
  | succ n ih => rw [Nat.add_right_comm, after, after, ih]

private theorem given_add (r : FrameResolver) (h : Host) (n k : Nat) :
    r.given h (n + k) = (r.after h n).1.given (r.after h n).2 k := by
  rw [given, given, after_add]

private theorem after_succ (r : FrameResolver) (h : Host) (n : Nat) :
    (r.after h (n + 1)).1 = ((r.after h n).1.next (r.after h n).2).result.2 := by
  rw [after_add]
  rfl

private theorem given_succ (r : FrameResolver) (h : Host) (n : Nat) :
    r.given h (n + 1) = (r.next h).result.2.given (r.next h).host n := rfl

/-- Once nothing remains, all calls leave resolver and host as they are. -/
private theorem after_of_done {r : FrameResolver} (hr : r.remaining = 0) (h : Host) (n : Nat) :
    r.after h n = (r, h) := by
  induction n with
  | zero => rfl
  | succ n ih => rw [after, next_of_done hr, ih]

private theorem given_of_done {r : FrameResolver} (hr : r.remaining = 0) (h : Host) (n : Nat) :
    r.given h n = none := by
  rw [given, after_of_done hr, next_of_done hr]

/-- No more frames come than remain. -/
private theorem countP_given_le (r : FrameResolver) (h : Host) (n : Nat) :
    (List.range n).countP (fun j => (r.given h j).isSome) ≤ r.remaining := by
  induction n generalizing r h with
  | zero => exact Nat.zero_le _
  | succ n ih =>
    have hlater := ih (r.next h).result.2 (r.next h).host
    rw [List.range_succ_eq_map, List.countP_cons, List.countP_map]
    have hshift : (fun j => (r.given h j).isSome) ∘ Nat.succ =
        fun j => ((r.next h).result.2.given (r.next h).host j).isSome := rfl
    rw [hshift]
    rcases r.remaining_next h with ⟨frame, hframe, hone⟩ | ⟨hnone, hdone⟩
    · have hfirst : r.given h 0 = some frame := hframe
      simp only [hfirst, Option.isSome_some, if_true]
      omega
    · have hfirst : r.given h 0 = none := hnone
      simp only [hfirst, Option.isSome_none, Bool.false_eq_true, if_false]
      omega

/-! ### The methods of a new resolver -/

/-- **What a call gives.** The description of its method, provided that none before it fails. -/
theorem given_eq_some_iff {methods : List Method} {h : Host} {j : Nat} {frame : Frame} :
    given ⟨methods, none⟩ h j = some frame ↔
      (∃ m, methods[j]? = some m ∧ h.scenario.resolution m = .ok frame) ∧
        ∀ m ∈ methods.take j, h.scenario.trouble? m = none := by
  induction methods generalizing h j with
  | nil =>
    rw [given_of_done rfl]
    simp
  | cons m rest ih =>
    have htrouble := h.scenario.trouble?_eq m
    cases j with
    | zero =>
      have hfirst : given ⟨m :: rest, none⟩ h 0 = (next ⟨m :: rest, none⟩ h).result.1 := rfl
      rw [hfirst, next_cons]
      rcases hr : h.scenario.resolution m with e | described <;> simp [hr]
    | succ j =>
      rw [given_succ, next_cons, host_next_cons]
      rcases hr : h.scenario.resolution m with e | described <;> rw [hr] at htrouble
      · -- the first method fails, so nothing is given any more
        rw [given_of_done rfl]
        simp [htrouble]
      · rw [ih, h.scenario_resolve m]
        simp [htrouble]

/-- **The failure after some calls** is the error of the first of their methods that fails. -/
theorem failure_after (methods : List Method) (h : Host) (n : Nat) :
    (after ⟨methods, none⟩ h n).1.failure = (methods.take n).findSome? h.scenario.trouble? := by
  induction methods generalizing h n with
  | nil =>
    rw [after_of_done rfl]
    simp
  | cons m rest ih =>
    have htrouble := h.scenario.trouble?_eq m
    cases n with
    | zero => rfl
    | succ n =>
      rw [after, next_cons, host_next_cons]
      rcases hr : h.scenario.resolution m with e | described <;> rw [hr] at htrouble
      · rw [after_of_done rfl]
        simp [htrouble]
      · rw [ih, h.scenario_resolve m]
        simp [htrouble]

/-- The frames that come, one call after the other. -/
private theorem filterMap_given_succ (r : FrameResolver) (h : Host) (n : Nat) :
    (List.range (n + 1)).filterMap (r.given h) =
      (r.next h).result.1.toList ++
        (List.range n).filterMap ((r.next h).result.2.given (r.next h).host) := by
  have hfirst : r.given h 0 = (r.next h).result.1 := rfl
  rw [List.range_succ_eq_map, List.filterMap_cons, List.filterMap_map, hfirst]
  rcases (r.next h).result.1 with _ | frame <;> rfl

end FrameResolver

/-- **Captures resolve as resolvers do.** Describing all methods up to the first failure comes to
the frames that as many calls give, to the failure that they end with, and to the host that they
leave. -/
theorem Host.resolveAll_eq (h : Host) (methods : List Method) :
    (h.resolveAll methods).result =
        ((List.range methods.length).filterMap (FrameResolver.given ⟨methods, none⟩ h),
          (FrameResolver.after ⟨methods, none⟩ h methods.length).1.failure) ∧
      (h.resolveAll methods).host =
        (FrameResolver.after ⟨methods, none⟩ h methods.length).2 := by
  induction methods generalizing h with
  | nil => exact ⟨rfl, rfl⟩
  | cons m rest ih =>
    have hresult := (h.resolve_spec m).1
    rw [List.length_cons, FrameResolver.filterMap_given_succ, FrameResolver.after,
      FrameResolver.next_cons, FrameResolver.host_next_cons, ← hresult]
    rcases hr : h.resolve m with ⟨e | frame, h', log⟩
    · -- nothing is given after the failure, and nothing changes
      have hnone :
          (List.range rest.length).filterMap (FrameResolver.given ⟨rest, some e⟩ h') = [] :=
        List.filterMap_eq_nil_iff.mpr fun j _ => FrameResolver.given_of_done rfl h' j
      have hstill : FrameResolver.after ⟨rest, some e⟩ h' rest.length = (⟨rest, some e⟩, h') :=
        FrameResolver.after_of_done rfl h' rest.length
      simp [resolveAll, hr, hnone, hstill]
    · obtain ⟨ihresult, ihhost⟩ := ih h'
      simp [resolveAll, hr, ihresult, ihhost]

/-! ### The main statement -/

/-- **Resolvers give a beginning and then stop for good.** Let a resolver of any methods be called
again and again by any host, also with methods that the host does not know. A call gives the
description of its method if this and all methods before it stand for frames without a failure, and
none otherwise. At any time the failure is the error of the first method reached that could not be
described. After the first call that gives none, no call changes resolver or host in any way, so
neither the failure, the bounds, the number of calls served nor that of buffers lent. The lower
bound is zero at any time; the upper one is at least the number of frames still to come, falls by
one with each frame, and is zero after the first call that gives none. What the calls give, and
where they leave the host, is what a capture makes of the methods. -/
theorem resolver_fused (h : Host) (methods : List Method) :
    let s := h.scenario
    let r : FrameResolver := { pending := methods }
    let state (n : Nat) := r.after h n
    let given (j : Nat) := r.given h j
    (∀ j frame, given j = some frame ↔
      (∃ m f, methods[j]? = some m ∧ s.frame? m = some f ∧ f.fail = none ∧
        f.descriptor = frame) ∧
      ∀ m ∈ methods.take j, ∃ f, s.frame? m = some f ∧ f.fail = none) ∧
    (∀ n, (state n).1.failure = (methods.take n).findSome? s.trouble?) ∧
    (∀ j, given j = none → ∀ k, given (j + k) = none ∧ state (j + 1 + k) = state (j + 1)) ∧
    (∃ upper : Nat → Nat, (∀ n, (state n).1.sizeHint = (0, some (upper n))) ∧
      (∀ n k, (List.range k).countP (fun i => (given (n + i)).isSome) ≤ upper n) ∧
      (∀ n, (given n).isSome → upper n = upper (n + 1) + 1) ∧
      ∀ n, given n = none → upper (n + 1) = 0) ∧
    (h.resolveAll methods).result =
      ((List.range methods.length).filterMap given, (state methods.length).1.failure) ∧
    (h.resolveAll methods).host = (state methods.length).2 := by
  intro s r state given
  have hstep : ∀ n, (∃ frame, given n = some frame ∧
        (state n).1.remaining = (state (n + 1)).1.remaining + 1) ∨
      given n = none ∧ (state (n + 1)).1.remaining = 0 := by
    intro n
    have hnext := (state n).1.remaining_next (state n).2
    rwa [← FrameResolver.after_succ] at hnext
  refine ⟨fun j frame => ?_, FrameResolver.failure_after methods h, ?_, ?_,
    h.resolveAll_eq methods⟩
  · simp only [given, r, FrameResolver.given_eq_some_iff, Scenario.resolution_eq_ok_iff,
      Scenario.trouble?_eq_none_iff, exists_and_left, s]
  · intro j hnone k
    rcases hstep j with ⟨frame, hframe, -⟩ | ⟨-, hdone⟩
    · cases hnone.symm.trans hframe
    refine ⟨?_, ?_⟩
    · cases k with
      | zero => exact hnone
      | succ k =>
        have hlater : given (j + 1 + k) = (state (j + 1)).1.given (state (j + 1)).2 k :=
          r.given_add h (j + 1) k
        rw [Nat.add_comm k 1, ← Nat.add_assoc, hlater, FrameResolver.given_of_done hdone]
    · have hlater := r.after_add h (j + 1) k
      exact hlater.trans (FrameResolver.after_of_done hdone (state (j + 1)).2 k)
  · refine ⟨fun n => (state n).1.remaining, fun n => rfl, fun n k => ?_, ?_, ?_⟩
    · have hlater : (fun i => (given (n + i)).isSome) =
          fun i => ((state n).1.given (state n).2 i).isSome :=
        funext fun i => congrArg Option.isSome (r.given_add h n i)
      rw [hlater]
      exact (state n).1.countP_given_le (state n).2 k
    · intro n hsome
      rcases hstep n with ⟨frame, -, hone⟩ | ⟨hnone, -⟩
      · exact hone
      · cases hnone ▸ hsome
    · intro n hnone
      rcases hstep n with ⟨frame, hframe, -⟩ | ⟨-, hdone⟩
      · cases hnone.symm.trans hframe
      · exact hdone

/-- Three methods, of which the second one is unknown to the host. The first one is described; the
second one ends it, after one more call to the host, and the third one is never looked at. -/
theorem resolver_fused_unknownMethod :
    let host : Host :=
      { scenario :=
          { threads := [{ name := "main"
                          frames := [⟨"LA;", "a", "()V", none⟩, ⟨"LB;", "b", "()V", none⟩] }] } }
    let r : FrameResolver := { pending := [⟨0, 0⟩, ⟨3, 1⟩, ⟨0, 1⟩] }
    r.given host 0 = some ⟨"LA;", "a", "()V"⟩ ∧ r.given host 1 = none ∧
      (∀ k, r.given host (1 + k) = none ∧ r.after host (1 + 1 + k) = r.after host (1 + 1)) ∧
      (r.after host 2).1.failure = some (.invalidHandle .methodName) ∧
      (r.after host 1).2.calls = 3 ∧ (r.after host 2).2.calls = 4 ∧
      (r.after host 0).1.sizeHint = (0, some 3) ∧ (r.after host 1).1.sizeHint = (0, some 2) ∧
      (r.after host 2).1.sizeHint = (0, some 0) := by
  intro host r
  obtain ⟨hgiven, hfailure, hfused, -⟩ := resolver_fused host r.pending
  have hnone : r.given host 1 = none := by decide
  refine ⟨(hgiven 0 _).mpr ?_, hnone, hfused 1 hnone, (hfailure 2).trans (by decide), by decide,
    by decide, by decide, by decide, by decide⟩
  exact ⟨⟨⟨0, 0⟩, ⟨"LA;", "a", "()V", none⟩, rfl, rfl, rfl, rfl⟩, by simp⟩

end Contention
