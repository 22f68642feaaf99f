import Mathlib.Data.List.Forall2
import Mathlib.Data.List.TakeDrop
import Mathlib.Data.List.TakeWhile
import Contention.Settings.Environment
import Contention.Settings.Options

/-!
# Settings one by one

Settings are changed by assignments, and an assignment touches the setting that it names and no
other. So `Settings.value` looks at a single setting, as the assignment that makes it, and says in
three places where its value comes from:

* after a row of assignments, from the **last** one that names it (`value_foldl_assign`);
* after an option string that can be read, from the last piece that has its key
  (`merge_of_ok`);
* in an environment, from its own variable (`value_ofLookup`).

Whether an option string can be read does not depend on the settings that it is merged into.
-/

namespace Contention

/-! ### Assignments -/

/-- The setting that is assigned. -/
def Assignment.setting : Assignment → Setting
  | .stackTrace _ => .stackTrace
  | .sampleRate _ => .sampleRate
  | .stackDepth _ => .stackDepth

namespace Setting

theorem key_injective : Function.Injective key := by
  intro s s' h
  cases s <;> cases s' <;> first | rfl | exact absurd h (by decide)

theorem ofKey?_eq_some_iff {text : String} {s : Setting} : ofKey? text = some s ↔ s.key = text := by
  constructor
  · intro h
    have hfound := List.find?_some h
    exact beq_iff_eq.mp hfound
  · rintro rfl
    cases s <;> decide

/-- What is read for a setting is assigned to it. -/
theorem setting_of_read? {s : Setting} {value : List Char} {a : Assignment}
    (h : s.read? value = some a) : a.setting = s := by
  cases s <;>
  · obtain ⟨_, -, rfl⟩ := Option.map_eq_some_iff.mp h
    rfl

end Setting

namespace Settings

/-- The value of one setting, as the assignment that makes it. -/
def value (c : Settings) : Setting → Assignment
  | .stackTrace => .stackTrace c.stackTrace
  | .sampleRate => .sampleRate c.sampleRate
  | .stackDepth => .stackDepth c.stackDepth

/-- **One assignment.** -/
theorem value_assign (c : Settings) (a : Assignment) (s : Setting) :
    (c.assign a).value s = if a.setting = s then a else c.value s := by
  cases a <;> cases s <;> rfl

/-- The last of several assignments to a setting. -/
def lastTo (s : Setting) (assignments : List Assignment) : Option Assignment :=
  (assignments.filter fun a => a.setting = s).getLast?

/-- **The last assignment counts.** -/
theorem value_foldl_assign (c : Settings) (assignments : List Assignment) (s : Setting) :
    (assignments.foldl assign c).value s = (lastTo s assignments).getD (c.value s) := by
  induction assignments generalizing c with
  | nil => rfl
  | cons a rest ih =>
    rw [List.foldl_cons, ih, value_assign, lastTo, lastTo, List.filter_cons]
    by_cases hs : a.setting = s
    · rw [if_pos hs, if_pos (decide_eq_true hs), List.getLast?_cons, Option.getD_some]
    · rw [if_neg hs, if_neg (by simpa using hs)]

end Settings

/-! ### Pieces -/

/-- What stands before the first `=` of a piece, without the blanks at its ends. -/
def pieceKey (piece : List Char) : String := String.ofList (Text.trim (piece.takeWhile (· != '=')))

/-- What stands behind the first `=` of a piece, without the blanks at its ends. -/
def pieceValue (piece : List Char) : List Char := Text.trim (piece.dropWhile (· != '=')).tail

theorem readPiece_eq (piece : List Char) :
    readPiece piece =
      if '=' ∈ piece then
        match Setting.ofKey? (pieceKey piece) with
        | none => .error (.unknown (pieceKey piece))
        | some s =>
          match s.read? (pieceValue piece) with
          | none => .error (.invalid (pieceKey piece) (String.ofList (pieceValue piece)) s.kind)
          | some a => .ok a
      else .error (.malformed (String.ofList piece)) := by
  have hmem : '=' ∈ piece ↔ piece.dropWhile (· != '=') ≠ [] := by
    rw [ne_eq, List.dropWhile_eq_nil_iff]
    simp
  rw [readPiece, List.span_eq_takeWhile_dropWhile]
  simp only [hmem, pieceKey, pieceValue]
  cases piece.dropWhile (· != '=') with
  | nil => rfl
  | cons c after =>
    rw [if_pos (List.cons_ne_nil c after)]
    rfl

/-- The text of the value that a piece has for a key. -/
def optionText? (key : String) (piece : List Char) : Option (List Char) :=
  if '=' ∈ piece ∧ pieceKey piece = key then some (pieceValue piece) else none

/-- **One piece.** If it can be read, it has a text for the setting that it assigns and for no
other. -/
theorem optionText?_of_readPiece {piece : List Char} {a : Assignment} (h : readPiece piece = .ok a)
    (s : Setting) :
    (optionText? s.key piece).map s.read? = if a.setting = s then some (some a) else none := by
  rw [readPiece_eq] at h
  split at h
  · next hmem =>
    split at h
    · cases h
    · next t ht =>
      split at h
      · cases h
      · next a' ha =>
        obtain rfl : a' = a := Except.ok.inj h
        have hkey := Setting.ofKey?_eq_some_iff.mp ht
        rw [Setting.setting_of_read? ha]
        by_cases hs : t = s
        · subst hs
          rw [optionText?, if_pos ⟨hmem, hkey.symm⟩, Option.map_some, ha, if_pos rfl]
        · have hother : ¬('=' ∈ piece ∧ pieceKey piece = s.key) := by
            rintro ⟨-, hs'⟩
            exact hs (Setting.key_injective (hkey.trans hs'))
          rw [optionText?, if_neg hother, Option.map_none, if_neg hs]
  · cases h

/-! ### Option strings -/

namespace Settings

/-- The pieces can all be read, and these are their assignments. -/
def Readable (pieces : List (List Char)) (assignments : List Assignment) : Prop :=
  List.Forall₂ (fun piece a => readPiece piece = .ok a) pieces assignments

theorem mergePieces_of_readable {pieces : List (List Char)} {assignments : List Assignment}
    (h : Readable pieces assignments) (c : Settings) :
    c.mergePieces pieces = (.ok (), assignments.foldl assign c) := by
  induction h generalizing c with
  | nil => rfl
  | cons hpiece _ ih => rw [mergePieces, hpiece, List.foldl_cons, ← ih]

theorem readable_of_mergePieces {c : Settings} {pieces : List (List Char)}
    (h : (c.mergePieces pieces).1 = .ok ()) : ∃ assignments, Readable pieces assignments := by
  induction pieces generalizing c with
  | nil => exact ⟨[], .nil⟩
  | cons piece rest ih =>
    rw [mergePieces] at h
    split at h
    · cases h
    · next a ha =>
      obtain ⟨assignments, hrest⟩ := ih h
      exact ⟨a :: assignments, .cons ha hrest⟩

/-- What an option string is merged into does not matter to whether it can be read. -/
theorem mergePieces_fst (c c' : Settings) (pieces : List (List Char)) :
    (c.mergePieces pieces).1 = (c'.mergePieces pieces).1 := by
  induction pieces generalizing c c' with
  | nil => rfl
  | cons piece rest ih =>
    rw [mergePieces, mergePieces]
    split
    · rfl
    · exact ih _ _

/-- The texts for a setting give just the assignments to it. -/
private theorem map_read?_of_readable {pieces : List (List Char)} {assignments : List Assignment}
    (h : Readable pieces assignments) (s : Setting) :
    (pieces.filterMap (optionText? s.key)).map s.read? =
      (assignments.filter fun a => a.setting = s).map some := by
  induction h with
  | nil => rfl
  | @cons piece a pieces assignments hpiece _ ih =>
    have hone := optionText?_of_readPiece hpiece s
    by_cases hs : a.setting = s
    · rw [if_pos hs] at hone
      obtain ⟨text, htext, hread⟩ := Option.map_eq_some_iff.mp hone
      rw [List.filterMap_cons_some htext, List.map_cons, hread, ih,
        List.filter_cons_of_pos (by simpa using hs), List.map_cons]
    · rw [if_neg hs, Option.map_eq_none_iff] at hone
      rw [List.filterMap_cons_none hone, ih, List.filter_cons_of_neg (by simpa using hs)]

/-- The text of the value in the last piece of an option string that has one for the key. -/
def lastOption? (key options : String) : Option (List Char) :=
  ((optionPieces options.toList).filterMap (optionText? key)).getLast?

/-- **Option strings** give a setting the value of its last piece, and that piece has one. -/
theorem merge_of_ok {options : String} {c₀ : Settings} (h : (c₀.merge options).1 = .ok ())
    (c : Settings) :
    ∃ c', c.merge options = (.ok (), c') ∧
      ∀ s : Setting, c'.value s = ((lastOption? s.key options).bind s.read?).getD (c.value s) ∧
        ∀ text, lastOption? s.key options = some text → ∃ a, s.read? text = some a := by
  obtain ⟨assignments, hread⟩ := readable_of_mergePieces h
  refine ⟨_, mergePieces_of_readable hread c, fun s => ?_⟩
  have hlast : (lastOption? s.key options).map s.read? = (lastTo s assignments).map some := by
    rw [lastOption?, lastTo, ← List.getLast?_map, ← List.getLast?_map, map_read?_of_readable hread]
  rw [value_foldl_assign]
  cases htext : lastOption? s.key options with
  | none =>
    rw [htext, Option.map_none, eq_comm, Option.map_eq_none_iff] at hlast
    rw [hlast]
    exact ⟨rfl, fun _ => nofun⟩
  | some text =>
    rw [htext, Option.map_some, eq_comm] at hlast
    obtain ⟨a, ha, hvalue⟩ := Option.map_eq_some_iff.mp hlast
    rw [ha, Option.bind_some, ← hvalue]
    refine ⟨rfl, fun text' htext' => ?_⟩
    obtain rfl := Option.some.inj htext'
    exact ⟨a, hvalue.symm⟩

/-! ### Environments -/

/-- What an environment assigns to a setting. -/
def fromLookup? (lookup : String → Option String) (s : Setting) : Option Assignment :=
  (lookup s.environmentName).bind fun v => s.read? (Text.trim v.toList)

private theorem setting_of_fromLookup? {lookup : String → Option String} {s : Setting}
    {a : Assignment} (h : fromLookup? lookup s = some a) : a.setting = s := by
  obtain ⟨v, -, hread⟩ := Option.bind_eq_some_iff.mp h
  exact Setting.setting_of_read? hread

/-- **One variable** is consulted for its own setting. -/
theorem value_consult (lookup : String → Option String) (c : Settings) (t s : Setting) :
    (consult lookup c t).value s =
      if t = s then (fromLookup? lookup s).getD (c.value s) else c.value s := by
  rw [consult, ← fromLookup?]
  by_cases hs : t = s
  · subst hs
    rw [if_pos rfl]
    cases ht : fromLookup? lookup t with
    | none => rfl
    | some a => exact (value_assign c a t).trans (if_pos (setting_of_fromLookup? ht))
  · rw [if_neg hs]
    cases ht : fromLookup? lookup t with
    | none => rfl
    | some a =>
      have hother : a.setting ≠ s := by rwa [setting_of_fromLookup? ht]
      exact (value_assign c a s).trans (if_neg hother)

/-- **Environments** give a setting the value of its variable, if that can be read. -/
theorem value_ofLookup (lookup : String → Option String) (s : Setting) :
    (ofLookup lookup).value s = (fromLookup? lookup s).getD (({} : Settings).value s) := by
  rw [ofLookup, Setting.all, List.foldl_cons, List.foldl_cons, List.foldl_cons, List.foldl_nil,
    value_consult, value_consult, value_consult]
  cases s <;> simp

end Settings

end Contention
