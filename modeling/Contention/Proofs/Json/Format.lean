import Contention.Proofs.Json.Grammar

/-!
# Formats

A `Format` says which texts stand for a value. It is given apart from any reader and leaves as much
open as JSON does: escapes in strings, blanks between the elements of a text, the order of the
members of an object, members with other keys among them, and whether a default is written out.
It also says which texts would stand for a value but for one **flaw**: somewhere in them an object
has a key of its structure a second time, or lacks a required one.

`Format.Suits f item` ties a reader to a format. The reader takes every text that stands for a value
as that value, and refuses every flawed text for its flaw. It is proved here for single values and
for arrays (`Suits.list`), whose items may themselves be flawed.
-/

namespace Contention.Json

open Text (numeral)

/-! ### Flaws -/

/-- What makes an object ambiguous or incomplete. -/
inductive Flaw where
  /-- A key of the structure stands in the object a second time. -/
  | duplicate (key : String)
  /-- A required key of the structure does not stand in the object. -/
  | missing (key : String)
deriving DecidableEq, Repr

/-- How a reader reports a flaw. -/
def Flaw.cause : Flaw → Mismatch
  | .duplicate key => .duplicate key
  | .missing key => .missing key

/-- A flaw in words. -/
def Flaw.phrase : Flaw → String
  | .duplicate key => "duplicate field `" ++ key ++ "`"
  | .missing key => "missing field `" ++ key ++ "`"

/-! ### Formats and what is written in them -/

/-- Which texts stand for a value, and which ones have a flaw. -/
structure Format (α : Type) where
  Renders : α → List Char → Prop
  Flawed : Flaw → List Char → Prop := fun _ _ => False

namespace Format

variable {α : Type}

/-- The text stands for the value, with blanks around it. -/
def Shows (f : Format α) (a : α) (text : List Char) : Prop :=
  ∃ core, f.Renders a core ∧ Padded core text

/-- The text has the flaw, with blanks around it. -/
def Spoils (f : Format α) (flaw : Flaw) (text : List Char) : Prop :=
  ∃ core, f.Flawed flaw core ∧ Padded core text

/-- A string with any of its characters escaped. -/
def string : Format String where
  Renders s text := ∃ body, Spells body s.toList ∧ text = '"' :: (body ++ ['"'])

/-- One of two words. -/
def boolean : Format Bool where
  Renders b text := text = if b then ['t', 'r', 'u', 'e'] else ['f', 'a', 'l', 's', 'e']

/-- The numeral of a natural number of 64 bits. -/
def word : Format UInt64 where
  Renders n text := text = numeral n.toNat

/-- The numeral of a signed integer of 64 bits. -/
def int64 : Format Int64 where
  Renders i text := text = numeral i.toInt

/-- The word `null`, or a value. -/
def nullable (f : Format α) : Format (Option α) where
  Renders
    | none, text => text = ['n', 'u', 'l', 'l']
    | some a, text => f.Renders a text
  Flawed := f.Flawed

/-- An array of values. What stands behind a flawed item does not matter. -/
def array (f : Format α) : Format (List α) where
  Renders as text := ∃ texts w, List.Forall₂ f.Shows as texts ∧ text = bracketed .square w texts
  Flawed flaw text := ∃ as before bad after w, List.Forall₂ f.Shows as before ∧
    f.Spoils flaw bad ∧ text = bracketed .square w (before ++ bad :: after)

/-! ### Readers of a format -/

/-- The reader takes what stands for a value as that value, and refuses what is flawed. -/
structure Suits (f : Format α) (item : Reader α) : Prop where
  ignores : ∀ cs, item (skipBlanks cs) = item cs
  opens : ∀ {a text}, f.Renders a text → Opens ']' text
  opens_flawed : ∀ {flaw text}, f.Flawed flaw text → Opens ']' text
  reads : ∀ {a text}, f.Renders a text → Reads item text a
  refuses : ∀ {flaw text}, f.Flawed flaw text →
    ∀ rest, item (text ++ rest) = .error (.mismatch flaw.cause)

namespace Suits

variable {f : Format α} {item : Reader α}

/-- Blanks before a value do not matter. -/
theorem gap (h : f.Suits item) (w : Gap) (cs : List Char) : item (w.val ++ cs) = item cs := by
  rw [← h.ignores, skipBlanks_gap, h.ignores]

/-- A value is read with the blanks before it, and those behind it are left. -/
theorem reads_shows (h : f.Suits item) {a : α} {text rest : List Char} (htext : f.Shows a text)
    (hrest : Ends rest) : ∃ w : Gap, item (text ++ rest) = .ok (a, w.val ++ rest) := by
  obtain ⟨core, hcore, w, w', rfl⟩ := htext
  refine ⟨w', ?_⟩
  rw [List.append_assoc, List.append_assoc, h.gap]
  exact h.reads hcore _ (hrest.gap w')

theorem refuses_spoils (h : f.Suits item) {flaw : Flaw} {text : List Char}
    (htext : f.Spoils flaw text) (rest : List Char) :
    item (text ++ rest) = .error (.mismatch flaw.cause) := by
  obtain ⟨core, hcore, w, w', rfl⟩ := htext
  rw [List.append_assoc, List.append_assoc, h.gap]
  exact h.refuses hcore _

/-- A whole text is read if it stands for a value. -/
theorem whole_shows (h : f.Suits item) {a : α} {text : String} (htext : f.Shows a text.toList) :
    whole item text = .ok a := by
  obtain ⟨w, hw⟩ := h.reads_shows htext ends_nil
  have hblanks : skipBlanks w.val = [] := by
    have hgap := skipBlanks_gap w []
    rwa [List.append_nil] at hgap
  rw [List.append_nil, List.append_nil] at hw
  simp only [whole, hw, bind, Except.bind, hblanks]

/-- A whole text is refused if it is flawed. -/
theorem whole_spoils (h : f.Suits item) {flaw : Flaw} {text : String}
    (htext : f.Spoils flaw text.toList) :
    whole item text = .error (.mismatch flaw.cause) := by
  have hitem := h.refuses_spoils htext []
  rw [List.append_nil] at hitem
  simp only [whole, hitem, bind, Except.bind]

end Suits

/-! ### Single values -/

theorem suits_string : string.Suits Json.string where
  ignores cs := by simp only [Json.string, skipBlanks_skipBlanks]
  opens := by
    rintro s text ⟨body, -, rfl⟩
    exact ⟨'"', _, rfl, by decide, by decide⟩
  opens_flawed := False.elim
  reads := by
    rintro s text ⟨body, hbody, rfl⟩ rest -
    simp [Json.string, skipBlanks, isBlank, stringBody_toList hbody]
  refuses := False.elim

theorem suits_boolean : boolean.Suits Json.boolean where
  ignores cs := by simp only [Json.boolean, skipBlanks_skipBlanks]
  opens := by
    rintro b text rfl
    cases b <;> exact ⟨_, _, rfl, by decide, by decide⟩
  opens_flawed := False.elim
  reads := by
    rintro b text rfl rest -
    cases b <;> rfl
  refuses := False.elim

theorem suits_word (expected : Expected) : word.Suits (Json.word expected) where
  ignores cs := by simp only [Json.word, integer, skipBlanks_skipBlanks]
  opens := by
    rintro n text rfl
    exact (starts_numeral n.toNat).opens
  opens_flawed := False.elim
  reads := by
    rintro n text rfl
    exact reads_word expected n
  refuses := False.elim

theorem suits_int64 : int64.Suits Json.int64 where
  ignores cs := by simp only [Json.int64, integer, skipBlanks_skipBlanks]
  opens := by
    rintro i text rfl
    exact (starts_numeral i.toInt).opens
  opens_flawed := False.elim
  reads := by
    rintro i text rfl
    exact reads_int64 i
  refuses := False.elim

/-- A value that may be `null` is told from it by its first character. -/
theorem Suits.nullable {f : Format α} {item : Reader α} (h : f.Suits item)
    (hstarts : ∀ {a text}, f.Renders a text → Starts text)
    (hflawed : ∀ {flaw text}, f.Flawed flaw text → Starts text) :
    f.nullable.Suits (Json.nullable item) where
  ignores cs := by simp only [Json.nullable, skipBlanks_skipBlanks, h.ignores]
  opens := by
    intro a text htext
    cases a with
    | none =>
      obtain rfl : text = _ := htext
      exact ⟨'n', _, rfl, by decide, by decide⟩
    | some a => exact h.opens htext
  opens_flawed := h.opens_flawed
  reads := by
    intro a text htext
    cases a with
    | none =>
      obtain rfl : text = _ := htext
      exact fun rest _ => rfl
    | some a => exact (h.reads htext).nullable (hstarts htext)
  refuses := by
    intro flaw text htext rest
    have hitem := h.refuses htext rest
    have hblanks := (hflawed htext).skipBlanks rest
    obtain ⟨c, cs, rfl, -, -, hn⟩ := hflawed htext
    rw [List.cons_append] at hitem hblanks ⊢
    rw [Json.nullable, hblanks]
    simp [hn, hitem, bind, Except.bind]

/-! ### Arrays -/

/-- The next item of an array stands behind blanks, and behind a comma unless it is the first. -/
private theorem nextItem_row {core : List Char} (h : Opens ']' core) (first : Bool) (w w' : Gap)
    (rest : List Char) :
    nextItem first (w.val ++ (lead first ++ (w'.val ++ (core ++ rest)))) =
      .ok (some (core ++ rest)) := by
  have hblanks : skipBlanks (w'.val ++ (core ++ rest)) = core ++ rest := by
    rw [skipBlanks_gap, h.skipBlanks]
  obtain ⟨c, cs, rfl, -, hc⟩ := h
  rw [List.cons_append] at hblanks ⊢
  cases first with
  | true => simp [nextItem, skipBlanks_gap, lead, hblanks]
  | false =>
    have hcomma (cs : List Char) : skipBlanks (',' :: cs) = ',' :: cs := rfl
    simp [nextItem, skipBlanks_gap, lead, hcomma, hblanks, hc]

section Items

variable {f : Format α} {item : Reader α}

/-- The closing bracket ends the items. -/
private theorem items_nil (item : Reader α) (first : Bool) (c : Char) (bound : List Char)
    (done : List α) (w : Gap) (rest : List Char) :
    items item (c :: bound) first done (w.val ++ row .square first [] rest) =
      .ok (done.reverse, rest) := by
  have hclosing : skipBlanks (w.val ++ row .square first [] rest) = ']' :: rest := by
    rw [skipBlanks_gap, row_nil]
    rfl
  simp [items, nextItem, endArray, hclosing, bind, Except.bind]

/-- One item that stands for a value is read as that value. -/
private theorem Suits.items_cons (h : f.Suits item) {a : α} {text : List Char}
    (htext : f.Shows a text) (texts : List (List Char)) (first : Bool) (c : Char)
    (bound : List Char) (done : List α) (w : Gap) (rest : List Char) :
    ∃ w' : Gap, items item (c :: bound) first done (w.val ++ row .square first (text :: texts) rest)
      = items item bound false (a :: done) (w'.val ++ row .square false texts rest) := by
  obtain ⟨core, hcore, w₁, w₂, rfl⟩ := htext
  refine ⟨w₂, ?_⟩
  have hread := h.reads hcore _ ((ends_row .square texts rest).gap w₂)
  rw [row_cons, List.append_assoc, List.append_assoc, items, nextItem_row (h.opens hcore)]
  simp only [bind, Except.bind, hread]

/-- All items that stand for values are read as these values, whatever follows them. -/
private theorem Suits.items_append (h : f.Suits item) {as : List α} {before : List (List Char)}
    (hbefore : List.Forall₂ f.Shows as before) (more : List (List Char)) (first : Bool)
    (bound : List Char) (hbound : (before ++ more).length < bound.length) (done : List α) (w : Gap)
    (rest : List Char) :
    ∃ bound' first', ∃ w' : Gap, more.length < bound'.length ∧
      items item bound first done (w.val ++ row .square first (before ++ more) rest) =
        items item bound' first' (as.reverse ++ done) (w'.val ++ row .square first' more rest) := by
  induction hbefore generalizing first bound done w with
  | nil => exact ⟨bound, first, w, hbound, rfl⟩
  | @cons a text as before htext _ ih =>
    obtain ⟨c, bound, rfl⟩ := List.exists_cons_of_length_pos (Nat.zero_lt_of_lt hbound)
    obtain ⟨w₁, hitem⟩ := h.items_cons htext (before ++ more) first c bound done w rest
    obtain ⟨bound', first', w', hroom, hrest⟩ :=
      ih false bound (Nat.lt_of_succ_lt_succ hbound) (a :: done) w₁
    refine ⟨bound', first', w', hroom, ?_⟩
    rw [List.cons_append, hitem, hrest, List.reverse_cons, List.append_assoc, List.singleton_append]

/-- **Arrays are read item by item**, and refused for the first flawed one. -/
theorem Suits.list (h : f.Suits item) : f.array.Suits (Json.list item) where
  ignores cs := by simp only [Json.list, skipBlanks_skipBlanks]
  opens := by
    rintro as text ⟨texts, w, -, rfl⟩
    exact ⟨'[', _, rfl, by decide, by decide⟩
  opens_flawed := by
    rintro flaw text ⟨as, before, bad, after, w, -, -, rfl⟩
    exact ⟨'[', _, rfl, by decide, by decide⟩
  reads := by
    rintro as text ⟨texts, w, htexts, rfl⟩ rest -
    have hroom := length_lt_row .square w texts rest
    rw [← List.append_nil texts] at hroom
    obtain ⟨bound, first, w', hbound, hitems⟩ := h.items_append htexts [] true _ hroom [] w rest
    obtain ⟨c, bound, rfl⟩ := List.exists_cons_of_length_pos hbound
    rw [items_nil, List.append_nil, List.append_nil, List.reverse_reverse] at hitems
    rw [bracketed_append]
    exact hitems
  refuses := by
    rintro flaw text ⟨as, before, bad, after, w, hbefore, ⟨core, hcore, w₁, w₂, rfl⟩, rfl⟩ rest
    have hroom := length_lt_row .square w (before ++ (w₁.val ++ (core ++ w₂.val)) :: after) rest
    obtain ⟨bound, first, w', hbound, hitems⟩ :=
      h.items_append hbefore ((w₁.val ++ (core ++ w₂.val)) :: after) true _ hroom [] w rest
    obtain ⟨c, bound, rfl⟩ := List.exists_cons_of_length_pos (Nat.zero_lt_of_lt hbound)
    rw [bracketed_append]
    refine hitems.trans ?_
    rw [row_cons, List.append_assoc, List.append_assoc, items, nextItem_row (h.opens_flawed hcore)]
    simp only [bind, Except.bind, h.refuses hcore]

end Items

end Format

end Contention.Json
