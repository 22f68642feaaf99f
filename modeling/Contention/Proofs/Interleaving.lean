import Contention.Proofs.Dialogue

/-!
# Interleaved dialogues

Several dialogues may be held with the same state. In an `Interleaving` one of those that still have
a question asks it, is answered, and the turn goes to any of them again, until all are done. Nothing
is assumed about the order of the turns; a `schedule` names it and can be run.

From the point of view of a single dialogue, what happens to it is one of its paths: `Path` lists
the questions asked with the answers given, whoever gave them. `Interleaving.tellings` takes an
interleaving apart: the lines of all paths together are the lines of the interleaving, in another
order. In the other direction, `Interleaving.follows` carries a relation between the state and the
lines so far along the interleaving.
-/

namespace Contention.Dialogue

variable {Q : Type} {A : Q → Type} {α β σ κ : Type}

/-- It does not matter how a dialogue in three parts is put together. -/
theorem bind_bind {γ : Type} (d : Dialogue Q A α) (f : α → Dialogue Q A β)
    (g : β → Dialogue Q A γ) : d >>= f >>= g = d >>= fun a => f a >>= g := by
  induction d with
  | done a => rfl
  | ask q next ih => exact congrArg (Dialogue.ask q) (funext ih)

/-! ### Paths -/

/-- The lines of one path of a dialogue, with the result at its end. -/
inductive Path : Dialogue Q A α → List ((q : Q) × A q) → α → Prop
  | done (a : α) : Path (.done a) [] a
  | ask {q : Q} {next : A q → Dialogue Q A α} (answer : A q) {lines : List ((q : Q) × A q)} {a : α}
      (h : Path (next answer) lines a) : Path (.ask q next) (⟨q, answer⟩ :: lines) a

@[simp]
theorem path_pure {a b : α} {lines : List ((q : Q) × A q)} :
    Path (pure a : Dialogue Q A α) lines b ↔ lines = [] ∧ b = a := by
  constructor
  · rintro ⟨⟩
    exact ⟨rfl, rfl⟩
  · rintro ⟨rfl, rfl⟩
    exact .done b

@[simp]
theorem path_request_bind {q : Q} {f : A q → Dialogue Q A α} {lines : List ((q : Q) × A q)}
    {a : α} :
    Path (request q >>= f) lines a ↔
      ∃ answer rest, lines = ⟨q, answer⟩ :: rest ∧ Path (f answer) rest a := by
  constructor
  · intro h
    cases h with
    | ask answer h => exact ⟨answer, _, rfl, h⟩
  · rintro ⟨answer, rest, rfl, h⟩
    exact .ask answer h

/-- A transcript is a path, whoever answers. -/
theorem path_transcript (answer : σ → (q : Q) → A q × σ) (d : Dialogue Q A α) (s : σ) :
    Path d (d.transcript answer s) (d.run answer s).1 := by
  induction d generalizing s with
  | done a => exact .done a
  | ask q next ih => exact .ask _ (ih (answer s q).1 (answer s q).2)

/-- A path goes through the first part and then through what follows it. -/
theorem Path.of_bind {d : Dialogue Q A α} {f : α → Dialogue Q A β} {lines : List ((q : Q) × A q)}
    {b : β} (h : Path (d >>= f) lines b) :
    ∃ first a rest, lines = first ++ rest ∧ Path d first a ∧ Path (f a) rest b := by
  induction d generalizing lines with
  | done a => exact ⟨[], a, lines, rfl, .done a, h⟩
  | ask q next ih =>
    cases h with
    | ask answer h =>
      obtain ⟨first, a, rest, rfl, hfirst, hrest⟩ := ih answer h
      exact ⟨_, a, rest, rfl, .ask answer hfirst, hrest⟩

/-- What holds on every path at the end of the account holds on this one. -/
theorem Meets.path {acc : Account Q A κ} {post : α → κ → Prop} {d : Dialogue Q A α} {k : κ}
    (h : d.Meets acc post k) {lines : List ((q : Q) × A q)} {a : α} (hpath : Path d lines a) :
    post a (acc.enterAll k lines) := by
  induction hpath generalizing k with
  | done a => exact h.2
  | ask answer _ ih => exact ih (h.2 answer)

/-- All questions, on every path, are of a certain kind. -/
def Asks (P : Q → Prop) : Dialogue Q A α → Prop
  | .done _ => True
  | .ask q next => P q ∧ ∀ answer, (next answer).Asks P

theorem Asks.bind {P : Q → Prop} {d : Dialogue Q A α} {f : α → Dialogue Q A β} (hd : d.Asks P)
    (hf : ∀ a, (f a).Asks P) : (d >>= f).Asks P := by
  induction d with
  | done a => exact hf a
  | ask q next ih => exact ⟨hd.1, fun answer => ih answer (hd.2 answer)⟩

theorem Path.asks {P : Q → Prop} {d : Dialogue Q A α} {lines : List ((q : Q) × A q)} {a : α}
    (h : Path d lines a) (hd : d.Asks P) : ∀ line ∈ lines, P line.1 := by
  induction h with
  | done a => simp
  | ask answer _ ih => exact List.forall_mem_cons.mpr ⟨hd.1, ih (hd.2 answer)⟩

/-- Someone who gives the same answer to the same question. -/
def steadily (reply : (q : Q) → A q) : Unit → (q : Q) → A q × Unit := fun _ q => (reply q, ())

/-- There is but one path along steady answers. -/
theorem Path.eq_transcript {reply : (q : Q) → A q} {d : Dialogue Q A α}
    {lines : List ((q : Q) × A q)} {a : α} (h : Path d lines a)
    (hlines : ∀ line ∈ lines, line.2 = reply line.1) :
    lines = d.transcript (steadily reply) () ∧ a = (d.run (steadily reply) ()).1 := by
  induction h with
  | done a => exact ⟨rfl, rfl⟩
  | ask answer _ ih =>
    obtain ⟨hanswer, hrest⟩ := List.forall_mem_cons.mp hlines
    obtain rfl : answer = reply _ := hanswer
    obtain ⟨ihlines, iha⟩ := ih hrest
    exact ⟨congrArg _ ihlines, iha⟩

/-- A dialogue with one of its paths. -/
structure Telling (Q : Type) (A : Q → Type) (α : Type) where
  dialogue : Dialogue Q A α
  lines : List ((q : Q) × A q)
  result : α
  path : Path dialogue lines result

/-! ### Interleavings -/

/-- Dialogues are held in turns with a state until all are done: the lines of all of them in the
order in which they were spoken, the results in the order of the dialogues, and the state at the
end. -/
inductive Interleaving (answer : σ → (q : Q) → A q × σ) :
    List (Dialogue Q A α) → σ → List ((q : Q) × A q) → List α → σ → Prop
  | done (results : List α) (s : σ) : Interleaving answer (results.map .done) s [] results s
  | turn (left right : List (Dialogue Q A α)) (q : Q) (next : A q → Dialogue Q A α) (s : σ)
      {lines : List ((q : Q) × A q)} {results : List α} {last : σ}
      (h : Interleaving answer (left ++ next (answer s q).1 :: right) (answer s q).2 lines results
        last) :
      Interleaving answer (left ++ .ask q next :: right) s (⟨q, (answer s q).1⟩ :: lines) results
        last

section Interleaving

variable {answer : σ → (q : Q) → A q × σ} {ds : List (Dialogue Q A α)} {s last : σ}
  {lines : List ((q : Q) × A q)} {results : List α}

/-- **An interleaving from the points of view of its dialogues.** Each of them went along one of its
paths, and the lines of these paths are all there is. -/
theorem Interleaving.tellings (h : Interleaving answer ds s lines results last) :
    ∃ told : List (Telling Q A α), told.map Telling.dialogue = ds ∧
      told.map Telling.result = results ∧ lines.Perm (told.flatMap Telling.lines) := by
  induction h with
  | done results s =>
    refine ⟨results.map fun a => ⟨.done a, [], a, .done a⟩, ?_, ?_, ?_⟩
    · rw [List.map_map]
      rfl
    · rw [List.map_map]
      exact List.map_id results
    · simp [List.flatMap_map]
  | turn left right q next s _ ih =>
    obtain ⟨told, hdialogues, rfl, hperm⟩ := ih
    -- the dialogue whose turn it is has the new line in front of its later path
    obtain ⟨before, others, rfl, rfl, hothers⟩ := List.map_eq_append_iff.mp hdialogues
    obtain ⟨one, after, rfl, hone, rfl⟩ := List.map_eq_cons_iff.mp hothers
    let longer : Telling Q A α :=
      ⟨.ask q next, ⟨q, (answer s q).1⟩ :: one.lines, one.result, .ask _ (hone ▸ one.path)⟩
    refine ⟨before ++ longer :: after, ?_, ?_, ?_⟩
    · simp [longer]
    · simp [longer]
    · simp only [List.flatMap_append, List.flatMap_cons, longer, List.cons_append] at hperm ⊢
      exact (hperm.cons _).trans List.perm_middle.symm

/-- A relation between the state and the lines so far, if every question keeps it, holds at the
end. -/
theorem Interleaving.follows {R : σ → List ((q : Q) × A q) → Prop}
    (hstep : ∀ s past q, R s past → R (answer s q).2 (past ++ [⟨q, (answer s q).1⟩]))
    (h : Interleaving answer ds s lines results last) {past : List ((q : Q) × A q)}
    (hs : R s past) : R last (past ++ lines) := by
  induction h generalizing past with
  | done results s => rwa [List.append_nil]
  | turn left right q next s _ ih =>
    have hlater := ih (hstep s past q hs)
    rwa [List.append_assoc, List.singleton_append] at hlater

/-- A dialogue that is held alone. -/
theorem Interleaving.alone (answer : σ → (q : Q) → A q × σ) (d : Dialogue Q A α) (s : σ) :
    Interleaving answer [d] s (d.transcript answer s) [(d.run answer s).1] (d.run answer s).2 := by
  induction d generalizing s with
  | done a => exact .done [a] s
  | ask q next ih => exact .turn [] [] q next s (ih (answer s q).1 (answer s q).2)

end Interleaving

/-! ### Schedules -/

/-- Give the turn to the dialogues at these positions, one after the other; a dialogue that is done
lets it pass. The answer holds the lines spoken, the dialogues as they then stand, and the state. -/
def schedule (answer : σ → (q : Q) → A q × σ) :
    List Nat → List (Dialogue Q A α) → σ →
      List ((q : Q) × A q) × List (Dialogue Q A α) × σ
  | [], ds, s => ([], ds, s)
  | turn :: turns, ds, s =>
    match ds[turn]? with
    | some (.ask q next) =>
      let later := schedule answer turns (ds.set turn (next (answer s q).1)) (answer s q).2
      (⟨q, (answer s q).1⟩ :: later.1, later.2)
    | _ => schedule answer turns ds s

/-- The results of dialogues, if all are done. -/
def results? : List (Dialogue Q A α) → Option (List α)
  | [] => some []
  | .done a :: rest => (results? rest).map (a :: ·)
  | .ask _ _ :: _ => none

private theorem eq_map_done_of_results? {ds : List (Dialogue Q A α)} {results : List α}
    (h : results? ds = some results) : ds = results.map .done := by
  fun_induction results? ds generalizing results with
  | case1 =>
    obtain rfl : [] = results := by simpa using h
    rfl
  | case2 a rest ih =>
    obtain ⟨later, hlater, rfl⟩ := Option.map_eq_some_iff.mp h
    rw [List.map_cons, ih hlater]
  | case3 q next rest => simp at h

/-- A schedule that leads to the end of all dialogues is an interleaving. -/
theorem Interleaving.of_schedule {answer : σ → (q : Q) → A q × σ} {turns : List Nat}
    {ds : List (Dialogue Q A α)} {s : σ} {results : List α}
    (h : results? (schedule answer turns ds s).2.1 = some results) :
    Interleaving answer ds s (schedule answer turns ds s).1 results
      (schedule answer turns ds s).2.2 := by
  fun_induction schedule answer turns ds s with
  | case1 ds s =>
    obtain rfl : ds = results.map .done := eq_map_done_of_results? h
    exact .done results s
  | case2 turn turns ds s q next hturn later ih =>
    obtain ⟨hlt, hask⟩ := List.getElem?_eq_some_iff.mp hturn
    have hset : ds.set turn (next (answer s q).1) =
        ds.take turn ++ next (answer s q).1 :: ds.drop (turn + 1) := by
      rw [List.set_eq_take_append_cons_drop, if_pos hlt]
    have hds : ds.take turn ++ .ask q next :: ds.drop (turn + 1) = ds := by
      rw [← hask, List.getElem_cons_drop, List.take_append_drop]
    have hlater : Interleaving answer _ _ later.1 results later.2.2 := ih h
    clear_value later
    rw [hset] at hlater
    have hfirst := Interleaving.turn _ _ q next s hlater
    rwa [hds] at hfirst
  | case3 turn turns ds s _ ih => exact ih h

end Contention.Dialogue
