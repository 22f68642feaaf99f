import Mathlib.Tactic.Common

/-!
# Dialogues

A `Dialogue` is a computation that asks questions and goes on from the answers. It does not say who
answers: `Dialogue.run` holds it with a state that answers and changes, and `Dialogue.transcript`
keeps the questions together with their answers. What is proved of **all paths** of a dialogue holds
whoever answers.

An `Account` is kept along a dialogue: every question changes it together with its answer, and it
is to be sound at any time. `Dialogue.Meets` says that it is, on every path, and what holds of it
at the end; by `meets_bind` the parts of a dialogue are treated one by one. `Meets.transcript`
carries this over to transcripts, and `tracks_transcript` ties the account to the state that
answers.
-/

namespace Contention

/-- A computation that asks questions `q : Q`, which are answered in `A q`. -/
inductive Dialogue (Q : Type) (A : Q → Type) (α : Type) where
  | done (result : α)
  | ask (question : Q) (next : A question → Dialogue Q A α)

namespace Dialogue

variable {Q : Type} {A : Q → Type} {α β σ κ : Type}

/-- Go on with another dialogue, which may depend on the result. -/
def bind : Dialogue Q A α → (α → Dialogue Q A β) → Dialogue Q A β
  | .done a, f => f a
  | .ask q next, f => .ask q fun answer => (next answer).bind f

instance : Monad (Dialogue Q A) where
  pure := done
  bind := bind

/-- The dialogue of one question, which results in its answer. -/
def request (q : Q) : Dialogue Q A (A q) := .ask q .done

/-! ### Dialogues with someone who answers -/

/-- Hold a dialogue with a state that answers and changes. -/
def run (answer : σ → (q : Q) → A q × σ) : Dialogue Q A α → σ → α × σ
  | .done a, s => (a, s)
  | .ask q next, s => (next (answer s q).1).run answer (answer s q).2

/-- The questions of a dialogue with their answers. -/
def transcript (answer : σ → (q : Q) → A q × σ) : Dialogue Q A α → σ → List ((q : Q) × A q)
  | .done _, _ => []
  | .ask q next, s =>
    ⟨q, (answer s q).1⟩ :: (next (answer s q).1).transcript answer (answer s q).2

section Run

variable (answer : σ → (q : Q) → A q × σ)

@[simp]
theorem run_pure (a : α) (s : σ) : (pure a : Dialogue Q A α).run answer s = (a, s) := rfl

@[simp]
theorem run_bind (d : Dialogue Q A α) (f : α → Dialogue Q A β) (s : σ) :
    (d >>= f).run answer s = (f (d.run answer s).1).run answer (d.run answer s).2 := by
  induction d generalizing s with
  | done a => rfl
  | ask q next ih => exact ih (answer s q).1 (answer s q).2

/-- The state after the questions of a transcript have been asked again, in order. -/
def after (s : σ) (lines : List ((q : Q) × A q)) : σ :=
  lines.foldl (fun s line => (answer s line.1).2) s

/-- A transcript leads where the dialogue led. -/
theorem after_transcript (d : Dialogue Q A α) (s : σ) :
    after answer s (d.transcript answer s) = (d.run answer s).2 := by
  induction d generalizing s with
  | done a => rfl
  | ask q next ih => exact ih (answer s q).1 (answer s q).2

end Run

/-- Two who answer alike hold the same dialogue. -/
theorem transcript_congr {τ : Type} {answer : σ → (q : Q) → A q × σ}
    {answer' : τ → (q : Q) → A q × τ} {R : σ → τ → Prop}
    (hstep : ∀ s t q, R s t →
      (answer s q).1 = (answer' t q).1 ∧ R (answer s q).2 (answer' t q).2)
    (d : Dialogue Q A α) {s : σ} {t : τ} (h : R s t) :
    d.transcript answer s = d.transcript answer' t := by
  induction d generalizing s t with
  | done a => rfl
  | ask q next ih =>
    obtain ⟨hanswer, hrest⟩ := hstep s t q h
    rw [transcript, transcript, hanswer, ih _ hrest]

/-! ### Accounts -/

/-- How an account is kept: how a question and its answer change it, and what is to hold of it at
any time. -/
structure Account (Q : Type) (A : Q → Type) (κ : Type) where
  enter : κ → (q : Q) → A q → κ
  sound : κ → Prop

/-- The account after the lines of a transcript. -/
def Account.enterAll (acc : Account Q A κ) (k : κ) (lines : List ((q : Q) × A q)) : κ :=
  lines.foldl (fun k line => acc.enter k line.1 line.2) k

/-- On every path of the dialogue, whatever the answers, the account is sound at any time, and at
the end it satisfies `post` together with the result. -/
def Meets (acc : Account Q A κ) (post : α → κ → Prop) : Dialogue Q A α → κ → Prop
  | .done a, k => acc.sound k ∧ post a k
  | .ask q next, k => acc.sound k ∧ ∀ answer, (next answer).Meets acc post (acc.enter k q answer)

section Meets

variable {acc : Account Q A κ} {post : α → κ → Prop}

@[simp]
theorem meets_request_bind {q : Q} {f : A q → Dialogue Q A α} {k : κ} :
    (request q >>= f).Meets acc post k ↔
      acc.sound k ∧ ∀ answer, (f answer).Meets acc post (acc.enter k q answer) := Iff.rfl

/-- What follows a dialogue starts from what the dialogue leaves. -/
theorem meets_bind {d : Dialogue Q A β} {f : β → Dialogue Q A α} {mid : β → κ → Prop} {k : κ}
    (hd : d.Meets acc mid k) (hf : ∀ b k, mid b k → (f b).Meets acc post k) :
    (d >>= f).Meets acc post k := by
  induction d generalizing k with
  | done b => exact hf b k hd.2
  | ask q next ih => exact ⟨hd.1, fun answer => ih answer (hd.2 answer)⟩

/-- **The account is kept along transcripts.** It is sound after every beginning of a transcript,
and at the end it satisfies the postcondition. -/
theorem Meets.transcript {d : Dialogue Q A α} {k : κ} (h : d.Meets acc post k)
    (answer : σ → (q : Q) → A q × σ) (s : σ) :
    (∀ past, past <+: d.transcript answer s → acc.sound (acc.enterAll k past)) ∧
      post (d.run answer s).1 (acc.enterAll k (d.transcript answer s)) := by
  induction d generalizing k s with
  | done a =>
    refine ⟨fun past hpast => ?_, h.2⟩
    obtain rfl := List.prefix_nil.mp hpast
    exact h.1
  | ask q next ih =>
    obtain ⟨hsound, hnext⟩ := h
    obtain ⟨ihpast, ihpost⟩ := ih (answer s q).1 (hnext _) (answer s q).2
    refine ⟨fun past hpast => ?_, ihpost⟩
    -- a beginning is empty, or it starts with the first question
    rcases List.prefix_cons_iff.mp hpast with rfl | ⟨past, rfl, htail⟩
    · exact hsound
    · exact ihpast past htail

end Meets

/-- A relation between the state that answers and the account, if every question keeps it, holds
after every beginning of a transcript. -/
theorem tracks_transcript {acc : Account Q A κ} {answer : σ → (q : Q) → A q × σ}
    {R : σ → κ → Prop}
    (hstep : ∀ s k q, R s k → R (answer s q).2 (acc.enter k q (answer s q).1))
    (d : Dialogue Q A α) {s : σ} {k : κ} (h : R s k) {past : List ((q : Q) × A q)}
    (hpast : past <+: d.transcript answer s) :
    R (after answer s past) (acc.enterAll k past) := by
  induction d generalizing s k past with
  | done a =>
    obtain rfl := List.prefix_nil.mp hpast
    exact h
  | ask q next ih =>
    rcases List.prefix_cons_iff.mp hpast with rfl | ⟨past, rfl, htail⟩
    · exact h
    · exact ih (answer s q).1 (hstep s k q h) htail

end Dialogue

end Contention
