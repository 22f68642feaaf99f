import Mathlib.Data.List.DropRight
import Contention.Proofs.Json.Reads

/-!
# The grammar of JSON

`Grammatical text` says that the text is that of one JSON value: numbers of any size, strings with
any escapes, and arrays and objects to any depth, with blanks wherever they may stand. The grammar
is given by rules and knows nothing of the readers.

Passing over a value of which nobody asks anything but its grammar is a walk through its brackets,
one step of `skipStep` at a time. `Grammatical.crossable` says by induction on the grammar that the
walk through a value comes out behind it after no more steps than the value has characters, so that
every grammatical value is passed over (`skip_grammatical`).
-/

namespace Contention.Json

/-! ### Blanks -/

/-- A row of blanks, as it may stand between any two elements of a text. -/
abbrev Gap := { w : List Char // ∀ c ∈ w, isBlank c = true }

/-- No blanks. -/
def Gap.none : Gap := ⟨[], by simp⟩

theorem skipBlanks_gap (w : Gap) (rest : List Char) :
    skipBlanks (w.val ++ rest) = skipBlanks rest :=
  List.dropWhile_append_of_pos w.property

theorem skipBlanks_skipBlanks (cs : List Char) : skipBlanks (skipBlanks cs) = skipBlanks cs :=
  List.dropWhile_idempotent isBlank cs

/-- Blanks do not prolong a number either. -/
theorem Ends.gap {rest : List Char} (h : Ends rest) (w : Gap) : Ends (w.val ++ rest) := by
  obtain ⟨w, hw⟩ := w
  cases w with
  | nil => exact h
  | cons c w =>
    have hc : c = ' ' ∨ c = '\t' ∨ c = '\n' ∨ c = '\r' := by
      simpa [isBlank, or_assoc] using hw c List.mem_cons_self
    rcases hc with rfl | rfl | rfl | rfl <;> simp [Ends]

/-- The second text is the first one with blanks around it. -/
def Padded (core text : List Char) : Prop :=
  ∃ w w' : Gap, text = w.val ++ (core ++ w'.val)

theorem padded_self (core : List Char) : Padded core core := ⟨.none, .none, by simp [Gap.none]⟩

/-- The text starts with a character that is no blank and does not close a bracket. -/
def Opens (closing : Char) (text : List Char) : Prop :=
  ∃ c cs, text = c :: cs ∧ isBlank c = false ∧ c ≠ closing

theorem Opens.skipBlanks {closing : Char} {text : List Char} (h : Opens closing text)
    (rest : List Char) : skipBlanks (text ++ rest) = text ++ rest := by
  obtain ⟨c, cs, rfl, hc, -⟩ := h
  simp [Json.skipBlanks, hc]

theorem Starts.opens {text : List Char} (h : Starts text) : Opens ']' text := by
  obtain ⟨c, cs, rfl, hblank, hc, -⟩ := h
  exact ⟨c, cs, rfl, hblank, hc⟩

/-! ### Strings -/

/-- What stands between the quotes of a string of which only the form matters: escaped surrogates
may stand alone. -/
inductive StringForm : List Char → Prop
  | nil : StringForm []
  | plain {c : Char} {cs : List Char} (hc : 0x20 ≤ c.toNat) (hquote : c ≠ '"')
      (hescape : c ≠ '\\') (h : StringForm cs) : StringForm (c :: cs)
  | short {c e : Char} {cs : List Char} (hc : shortEscape? c = some e) (h : StringForm cs) :
      StringForm ('\\' :: c :: cs)
  | quad {a b c d : Char} {n : Nat} {cs : List Char} (hn : hexQuad? a b c d = some n)
      (h : StringForm cs) : StringForm ('\\' :: 'u' :: a :: b :: c :: d :: cs)

/-- The first text, between quotes, stands for a string of these characters. -/
inductive Spells : List Char → List Char → Prop
  | nil : Spells [] []
  | plain {c : Char} {body cs : List Char} (hc : 0x20 ≤ c.toNat) (hquote : c ≠ '"')
      (hescape : c ≠ '\\') (h : Spells body cs) : Spells (c :: body) (c :: cs)
  | short {c e : Char} {body cs : List Char} (hc : shortEscape? c = some e) (h : Spells body cs) :
      Spells ('\\' :: c :: body) (e :: cs)
  | quad {a b c d : Char} {n : Nat} {body cs : List Char} (hn : hexQuad? a b c d = some n)
      (hlow : isLowSurrogate n = false) (hhigh : isHighSurrogate n = false) (h : Spells body cs) :
      Spells ('\\' :: 'u' :: a :: b :: c :: d :: body) (Char.ofNat n :: cs)
  | pair {a b c d a' b' c' d' : Char} {n m : Nat} {body cs : List Char}
      (hn : hexQuad? a b c d = some n) (hhigh : isHighSurrogate n = true)
      (hm : hexQuad? a' b' c' d' = some m) (hlow : isLowSurrogate m = true) (h : Spells body cs) :
      Spells ('\\' :: 'u' :: a :: b :: c :: d :: '\\' :: 'u' :: a' :: b' :: c' :: d' :: body)
        (pairedChar n m :: cs)

/-- The letter of a short escape is one of eight. -/
private theorem shortEscape?_cases {c e : Char} (h : shortEscape? c = some e) :
    c ∈ ['"', '\\', '/', 'b', 'f', 'n', 'r', 't'] := by
  unfold shortEscape? at h
  split at h <;> simp_all

private theorem skipString_form {body : List Char} (h : StringForm body) (rest : List Char) :
    skipString (body ++ '"' :: rest) = .ok rest := by
  induction h with
  | nil => simp [skipString]
  | plain hc hquote hescape _ ih =>
    rw [List.cons_append, skipString]
    · rw [if_neg (Nat.not_lt.mpr hc), ih]
    all_goals simp_all
  | short hc _ ih =>
    have hletter := shortEscape?_cases hc
    simp only [List.mem_cons, List.not_mem_nil, or_false] at hletter
    rcases hletter with rfl | rfl | rfl | rfl | rfl | rfl | rfl | rfl <;>
      simp [skipString, shortEscape?, ih]
  | quad hn _ ih => simp [skipString, hn, ih]

private theorem stringBody_short {c e : Char} (h : shortEscape? c = some e)
    (done rest : List Char) :
    stringBody done ('\\' :: c :: rest) = stringBody (e :: done) rest := by
  have hletter := shortEscape?_cases h
  simp only [List.mem_cons, List.not_mem_nil, or_false] at hletter
  rcases hletter with rfl | rfl | rfl | rfl | rfl | rfl | rfl | rfl <;> (cases h; rfl)

/-- A high surrogate is no low one. -/
private theorem isLowSurrogate_of_high {n : Nat} (h : isHighSurrogate n = true) :
    isLowSurrogate n = false := by
  simp only [isHighSurrogate, Bool.and_eq_true, decide_eq_true_eq] at h
  simp only [isLowSurrogate, Bool.and_eq_false_iff, decide_eq_false_iff_not]
  omega

/-- **A string is read as what it spells**, whichever escapes it is written with. -/
theorem stringBody_spells {body cs : List Char} (h : Spells body cs) (done rest : List Char) :
    stringBody done (body ++ '"' :: rest) = .ok (String.ofList (done.reverse ++ cs), rest) := by
  induction h generalizing done with
  | nil => simp [stringBody]
  | plain hc hquote hescape _ ih =>
    rw [List.cons_append, stringBody]
    · rw [if_neg (Nat.not_lt.mpr hc), ih]
      simp
    all_goals simp_all
  | short hc _ ih =>
    rw [List.cons_append, List.cons_append, stringBody_short hc, ih]
    simp
  | quad hn hlow hhigh _ ih => simp [stringBody, hn, hlow, hhigh, ih]
  | pair hn hhigh hm hlow _ ih =>
    simp [stringBody, hn, isLowSurrogate_of_high hhigh, hhigh, hm, hlow, ih]

theorem stringBody_toList {body : List Char} {s : String} (h : Spells body s.toList)
    (rest : List Char) : stringBody [] (body ++ '"' :: rest) = .ok (s, rest) := by
  rw [stringBody_spells h, List.reverse_nil, List.nil_append, String.ofList_toList]

/-- The escaped form of a character stands for it. -/
theorem Spells.escaped (c : Char) {body cs : List Char} (h : Spells body cs) :
    Spells (escaped c ++ body) (c :: cs) := by
  unfold Json.escaped
  split
  iterate 7 · exact .short (by rfl) h
  split
  · next hc =>
    obtain ⟨hlow, hhigh⟩ := no_surrogate_of_lt hc
    have hspells := Spells.quad (hexQuad?_of_lt hc) hlow hhigh h
    rwa [Char.ofNat_toNat] at hspells
  · next hc => exact .plain (Nat.le_of_not_lt hc) (by assumption) (by assumption) h

/-- Between its quotes the written form of a string stands for it. -/
theorem spells_flatMap_escaped (cs : List Char) : Spells (cs.flatMap escaped) cs := by
  induction cs with
  | nil => exact .nil
  | cons c cs ih => exact ih.escaped c

/-! ### Numbers -/

/-- A non-empty row of digits. -/
def Digits (ds : List Char) : Prop := ds ≠ [] ∧ ∀ c ∈ ds, c.isDigit = true

/-- The texts of numbers: a sign, a whole part that does not start with a zero unless it is zero, a
fraction and an exponent, all but the whole part optional. -/
inductive NumberForm : List Char → Prop
  | parts {sign whole fraction exponent : List Char} (hsign : sign = [] ∨ sign = ['-'])
      (hwhole : Digits whole) (hzero : whole.head? = some '0' → whole = ['0'])
      (hfraction : fraction = [] ∨ ∃ ds, Digits ds ∧ fraction = '.' :: ds)
      (hexponent : exponent = [] ∨ ∃ e sign ds, (e = 'e' ∨ e = 'E') ∧
        (sign = [] ∨ sign = ['+'] ∨ sign = ['-']) ∧ Digits ds ∧ exponent = e :: (sign ++ ds)) :
      NumberForm (sign ++ (whole ++ (fraction ++ exponent)))

/-- The text does not go on with a digit. -/
def Stops (rest : List Char) : Prop := ∀ c ∈ rest.head?, c.isDigit = false

private theorem Ends.stops {rest : List Char} (h : Ends rest) : Stops rest := fun c hc => (h c hc).1

theorem Digits.someDigits {ds rest : List Char} (h : Digits ds) (hrest : Stops rest) :
    someDigits (ds ++ rest) = .ok (ds, rest) :=
  someDigits_append h.1 h.2 hrest

/-- A row of digits starts with one. -/
theorem Digits.cons {ds : List Char} (h : Digits ds) :
    ∃ d rest, ds = d :: rest ∧ d.isDigit = true := by
  obtain ⟨d, rest, rfl⟩ := List.exists_cons_of_ne_nil h.1
  exact ⟨d, rest, rfl, h.2 d List.mem_cons_self⟩

/-- The exponent of a number is scanned to its end. -/
private theorem scanExponent_form {exponent rest : List Char}
    (h : exponent = [] ∨ ∃ e sign ds, (e = 'e' ∨ e = 'E') ∧
      (sign = [] ∨ sign = ['+'] ∨ sign = ['-']) ∧ Digits ds ∧ exponent = e :: (sign ++ ds))
    (hrest : Ends rest) : ∃ part, scanExponent (exponent ++ rest) = .ok (part, rest) := by
  rcases h with rfl | ⟨e, sign, ds, he, hsign, hds, rfl⟩
  · exact ⟨_, hrest.scanExponent⟩
  · have hdigits := hds.someDigits hrest.stops
    have hscan : ∃ negative, scanSign (sign ++ (ds ++ rest)) = (negative, ds ++ rest) := by
      rcases hsign with rfl | rfl | rfl
      · obtain ⟨d, tail, rfl, hd⟩ := hds.cons
        have hne : d ≠ '-' ∧ d ≠ '+' := by
          constructor <;> rintro rfl <;> simp at hd
        exact ⟨false, by simp [scanSign, hne]⟩
      · exact ⟨false, rfl⟩
      · exact ⟨true, rfl⟩
    obtain ⟨negative, hscan⟩ := hscan
    refine ⟨some (negative, ds), ?_⟩
    rw [List.cons_append, List.append_assoc, scanExponent, if_pos he, hscan]
    simp [hdigits, bind, Except.bind]

/-- The fraction of a number is scanned to its end. -/
private theorem scanFraction_form {fraction rest : List Char}
    (h : fraction = [] ∨ ∃ ds, Digits ds ∧ fraction = '.' :: ds) (hstops : Stops rest)
    (hpoint : rest.head? ≠ some '.') :
    ∃ part, scanFraction (fraction ++ rest) = .ok (part, rest) := by
  rcases h with rfl | ⟨ds, hds, rfl⟩
  · refine ⟨[], ?_⟩
    rw [List.nil_append, scanFraction]
    rintro cs rfl
    exact hpoint rfl
  · exact ⟨ds, by rw [List.cons_append, scanFraction, hds.someDigits hstops]⟩

private theorem scanWhole_form {whole rest : List Char} (h : Digits whole)
    (hzero : whole.head? = some '0' → whole = ['0']) (hrest : Stops rest) :
    scanWhole (whole ++ rest) = .ok (whole, rest) := by
  rw [scanWhole, h.someDigits hrest]
  simp only [bind, Except.bind]
  split
  · simp at hzero
  · rfl

/-- **Numbers are scanned to their end.** -/
theorem skipNumber_form {text rest : List Char} (h : NumberForm text) (hrest : Ends rest) :
    skipNumber (text ++ rest) = .ok rest := by
  obtain @⟨sign, whole, fraction, exponent, hsign, hwhole, hzero, hfraction, hexponent⟩ := h
  -- neither the exponent nor what follows the number goes on with a digit or a point
  have hstart : Stops (exponent ++ rest) ∧ (exponent ++ rest).head? ≠ some '.' := by
    rcases hexponent with rfl | ⟨e, sign, ds, rfl | rfl, -, -, rfl⟩
    · exact ⟨hrest.stops, fun h => (hrest '.' h).2.1 rfl⟩
    · simp [Stops]
    · simp [Stops]
  have hstops : Stops (fraction ++ (exponent ++ rest)) := by
    rcases hfraction with rfl | ⟨ds, -, rfl⟩
    · exact hstart.1
    · simp [Stops]
  obtain ⟨part, hpart⟩ := scanExponent_form hexponent hrest
  obtain ⟨part', hpart'⟩ := scanFraction_form hfraction hstart.1 hstart.2
  have hscan := scanWhole_form hwhole hzero hstops
  rcases hsign with rfl | rfl
  · obtain ⟨d, ds, rfl, hd⟩ := hwhole.cons
    have hne : d ≠ '-' := by
      rintro rfl
      simp at hd
    rw [List.cons_append] at hscan
    simp [skipNumber, scanNumber, hne, hscan, hpart, hpart', bind, Except.bind]
  · simp [skipNumber, scanNumber, hscan, hpart, hpart', bind, Except.bind]

/-- A number starts with a sign or a digit. -/
theorem NumberForm.cons {text : List Char} (h : NumberForm text) :
    ∃ c cs, text = c :: cs ∧ (c = '-' ∨ c.isDigit = true) := by
  obtain ⟨rfl | rfl, hwhole, -, -, -⟩ := h
  · obtain ⟨d, ds, rfl, hd⟩ := hwhole.cons
    exact ⟨d, _, rfl, .inr hd⟩
  · exact ⟨'-', _, rfl, .inl rfl⟩

/-! ### Brackets -/

/-- The character that opens a bracket. -/
def Bracket.opening : Bracket → Char
  | .square => '['
  | .curly => '{'

/-- Texts with commas between them inside a bracket; the blanks stand there for a bracket without
any texts. -/
def bracketed (b : Bracket) (w : Gap) (texts : List (List Char)) : List Char :=
  b.opening :: (w.val ++ (commaSeparated texts ++ [b.closing]))

/-- The comma before a text that is not the first one. -/
def lead (fresh : Bool) : List Char := if fresh then [] else [',']

/-- The texts that are left inside a bracket, up to its end. -/
def row (b : Bracket) (fresh : Bool) (texts : List (List Char)) (rest : List Char) : List Char :=
  if fresh then commaSeparated texts ++ b.closing :: rest else behind b.closing texts rest

theorem row_nil (b : Bracket) (fresh : Bool) (rest : List Char) :
    row b fresh [] rest = b.closing :: rest := by
  cases fresh <;> rfl

theorem row_cons (b : Bracket) (fresh : Bool) (text : List Char) (texts : List (List Char))
    (rest : List Char) :
    row b fresh (text :: texts) rest = lead fresh ++ (text ++ row b false texts rest) := by
  cases fresh with
  | true => exact commaSeparated_append b.closing text texts rest
  | false => exact behind_cons b.closing text texts rest

theorem bracketed_append (b : Bracket) (w : Gap) (texts : List (List Char)) (rest : List Char) :
    bracketed b w texts ++ rest = b.opening :: (w.val ++ row b true texts rest) := by
  simp [bracketed, row]

private theorem Bracket.closing_cases (b : Bracket) : b.closing = ']' ∨ b.closing = '}' := by
  cases b with
  | square => exact .inl rfl
  | curly => exact .inr rfl

theorem ends_row (b : Bracket) (texts : List (List Char)) (rest : List Char) :
    Ends (row b false texts rest) :=
  ends_behind b.closing_cases texts rest

/-- A closing bracket is no blank. -/
private theorem Bracket.skipBlanks_closing (b : Bracket) (rest : List Char) :
    skipBlanks (b.closing :: rest) = b.closing :: rest := by
  cases b <;> rfl

/-- A bracket has room for its texts, and for a character more beside each of them. -/
private theorem length_behind_le_bracketed (b : Bracket) (w : Gap) (texts : List (List Char)) :
    (behind b.closing texts []).length ≤ (bracketed b w texts).length := by
  cases texts with
  | nil => simp [behind, bracketed]
  | cons text texts =>
    have hrow : commaSeparated (text :: texts) ++ [b.closing] =
        text ++ behind b.closing texts [] := commaSeparated_append b.closing text texts []
    simp only [bracketed, hrow, behind_cons, List.length_cons, List.length_append]
    omega

/-- There is room for all texts of a bracket. -/
theorem length_lt_row (b : Bracket) (w : Gap) (texts : List (List Char)) (rest : List Char) :
    texts.length < (b.opening :: (w.val ++ row b true texts rest)).length := by
  cases texts with
  | nil => simp
  | cons text texts =>
    have hlt := length_lt_behind b.closing texts rest
    rw [row_cons]
    simp only [lead, row, List.length_cons, List.length_append, if_true, Bool.false_eq_true,
      if_false]
    omega

/-- A member of an object as it is written: a key between quotes, a colon and the text of a value,
with blanks between them. -/
structure Entry where
  before : Gap
  key : List Char
  after : Gap
  value : List Char

/-- The text of a member. -/
def Entry.text (e : Entry) : List Char :=
  e.before.val ++ '"' :: (e.key ++ '"' :: (e.after.val ++ ':' :: e.value))

/-- A member behind the opening quote of its key, and what follows it. -/
def Entry.inner (e : Entry) (rest : List Char) : List Char :=
  e.key ++ '"' :: (e.after.val ++ ':' :: (e.value ++ rest))

theorem Entry.skipBlanks_text (e : Entry) (rest : List Char) :
    skipBlanks (e.text ++ rest) = '"' :: e.inner rest := by
  rw [text, inner, List.append_assoc, skipBlanks_gap]
  simp [skipBlanks, isBlank]

theorem expectColon_gap (w : Gap) (rest : List Char) :
    expectColon (w.val ++ ':' :: rest) = .ok rest := by
  rw [expectColon, skipBlanks_gap]
  rfl

private theorem Entry.length_value_lt (e : Entry) : e.value.length < e.text.length := by
  simp only [text, List.length_append, List.length_cons]
  omega

/-! ### Values -/

/-- **The grammar of JSON**: the texts of single values, without the blanks around them. Inside
brackets `core` picks out the value from between its blanks. -/
inductive Grammatical : List Char → Prop
  | null : Grammatical ['n', 'u', 'l', 'l']
  | true : Grammatical ['t', 'r', 'u', 'e']
  | false : Grammatical ['f', 'a', 'l', 's', 'e']
  | number {text : List Char} (h : NumberForm text) : Grammatical text
  | string {body : List Char} (h : StringForm body) : Grammatical ('"' :: (body ++ ['"']))
  | array (w : Gap) {texts : List (List Char)} (core : List Char → List Char)
      (hvalues : ∀ t ∈ texts, Grammatical (core t)) (hpadded : ∀ t ∈ texts, Padded (core t) t) :
      Grammatical (bracketed .square w texts)
  | object (w : Gap) {entries : List Entry} (core : Entry → List Char)
      (hkeys : ∀ e ∈ entries, StringForm e.key) (hvalues : ∀ e ∈ entries, Grammatical (core e))
      (hpadded : ∀ e ∈ entries, Padded (core e) e.value) :
      Grammatical (bracketed .curly w (entries.map Entry.text))

/-- Blanks and the closing bracket of an array stand at the start of no value. -/
theorem Grammatical.opens {text : List Char} (h : Grammatical text) : Opens ']' text := by
  cases h with
  | number h =>
    obtain ⟨c, cs, rfl, hc⟩ := h.cons
    exact ⟨c, cs, rfl, isBlank_of_sign_or_digit hc, ne_of_sign_or_digit hc (by decide)⟩
  | _ => exact ⟨_, _, rfl, by decide, by decide⟩

/-! ### Walking through a value -/

namespace Skipping

/-- So many steps lead from one place to another. -/
inductive Leads : Nat → Skipping → Skipping → Prop
  | here (s : Skipping) : Leads 0 s s
  | step {b : Bracket} {opened : List Bracket} {fresh : Bool} {cs : List Char} {n : Nat}
      {s s' : Skipping} (h : skipStep b opened fresh cs = .ok s) (hrest : Leads n s s') :
      Leads (n + 1) ⟨b :: opened, fresh, cs⟩ s'

theorem Leads.trans {n m : Nat} {s s' s'' : Skipping} (h : Leads n s s') (h' : Leads m s' s'') :
    Leads (m + n) s s'' := by
  induction h with
  | here => exact h'
  | step hstep _ ih => exact .step hstep (ih h')

/-- A walk out of all brackets is found if the bound allows its steps. -/
theorem Leads.leaveAll {n : Nat} {s : Skipping} {fresh : Bool} {rest : List Char}
    (h : Leads n s ⟨[], fresh, rest⟩) {bound : List Char} (hbound : n ≤ bound.length) :
    leaveAll bound s = .ok rest := by
  -- the induction is over the walk from its start on, so its end is kept apart
  generalize hlast : (⟨[], fresh, rest⟩ : Skipping) = last at h
  induction h generalizing bound with
  | here =>
    subst hlast
    simp [Json.leaveAll]
  | step hstep _ ih =>
    obtain ⟨c, bound, rfl⟩ := List.exists_cons_of_length_pos (Nat.zero_lt_of_lt hbound)
    simp only [Json.leaveAll, hstep, bind, Except.bind]
    exact ih (Nat.le_of_succ_le_succ hbound) hlast

end Skipping

open Skipping (Leads)

/-- The walk that enters a value at the start of the text comes out behind it in so many steps. -/
def Crosses (opened : List Bracket) (start : List Char) (n : Nat) (rest : List Char) : Prop :=
  ∃ s, enterValue opened start = .ok s ∧ Leads n s ⟨opened, false, rest⟩

/-- A walk crosses the text of a value inside any brackets. -/
def Crossable (text : List Char) : Prop :=
  ∀ opened rest, Ends rest → ∃ n ≤ text.length, Crosses opened (text ++ rest) n rest

/-- A walk crosses a text inside a bracket, up to blanks at its end. -/
structure Passable (b : Bracket) (text : List Char) : Prop where
  opens : ∀ rest, ∃ c cs, skipBlanks (text ++ rest) = c :: cs ∧ c ≠ b.closing
  crosses : ∀ opened rest, Ends rest → ∃ start, skipToValue b (text ++ rest) = .ok start ∧
    ∃ n ≤ text.length, ∃ w : Gap, Crosses opened start n (w.val ++ rest)

private theorem enterValue_skipBlanks (opened : List Bracket) (cs : List Char) :
    enterValue opened (skipBlanks cs) = enterValue opened cs := by
  simp only [enterValue, skipBlanks_skipBlanks]

private theorem skipStep_skipBlanks (b : Bracket) (opened : List Bracket) (fresh : Bool)
    (cs : List Char) : skipStep b opened fresh (skipBlanks cs) = skipStep b opened fresh cs := by
  simp only [skipStep, skipBlanks_skipBlanks]

/-- Blanks before an item are passed over in any case. -/
private theorem enter_skipBlanks (b : Bracket) (opened : List Bracket) (cs : List Char) :
    (skipToValue b (skipBlanks cs) >>= enterValue opened) =
      (skipToValue b cs >>= enterValue opened) := by
  cases b with
  | square => exact enterValue_skipBlanks opened cs
  | curly => simp only [skipToValue, skipKey, skipBlanks_skipBlanks]

/-- A step before a text inside a bracket enters its value. -/
theorem Passable.skipStep {b : Bracket} {text : List Char} (h : Passable b text)
    (opened : List Bracket) (fresh : Bool) (rest : List Char) :
    skipStep b opened fresh (lead fresh ++ (text ++ rest)) =
      (skipToValue b (text ++ rest) >>= enterValue (b :: opened)) := by
  cases fresh with
  | true =>
    obtain ⟨c, cs, hcs, hc⟩ := h.opens rest
    rw [← enter_skipBlanks, hcs]
    simp [lead, Json.skipStep, hcs, hc]
  | false =>
    have hcomma : skipBlanks (',' :: (text ++ rest)) = ',' :: (text ++ rest) := rfl
    have hne : (',' : Char) ≠ b.closing := by cases b <;> decide
    simp [lead, Json.skipStep, hcomma, hne]

/-- **A row is crossed** up to the end of its bracket, text by text. -/
theorem leads_row {b : Bracket} {texts : List (List Char)} (h : ∀ t ∈ texts, Passable b t)
    (opened : List Bracket) (fresh : Bool) (w : Gap) (rest : List Char) :
    ∃ n ≤ (behind b.closing texts []).length,
      Leads n ⟨b :: opened, fresh, w.val ++ row b fresh texts rest⟩ ⟨opened, false, rest⟩ := by
  induction texts generalizing fresh w with
  | nil =>
    have hstep : skipStep b opened fresh (w.val ++ row b fresh [] rest) =
        .ok ⟨opened, false, rest⟩ := by
      rw [← skipStep_skipBlanks, skipBlanks_gap, skipStep_skipBlanks, row_nil, skipStep,
        b.skipBlanks_closing]
      simp
    exact ⟨1, by simp [behind], .step hstep (.here _)⟩
  | cons text texts ih =>
    have hpass : Passable b text := h text List.mem_cons_self
    obtain ⟨start, hstart, n, hn, w', s, henter, hleads⟩ :=
      hpass.crosses (b :: opened) _ (ends_row b texts rest)
    obtain ⟨m, hm, hlast⟩ := ih (fun t ht => h t (List.mem_cons_of_mem _ ht)) false w'
    have hstep : skipStep b opened fresh (w.val ++ row b fresh (text :: texts) rest) = .ok s := by
      rw [← skipStep_skipBlanks, skipBlanks_gap, skipStep_skipBlanks, row_cons, hpass.skipStep,
        hstart]
      exact henter
    -- one step into the value, the steps through it, and those through the other texts
    refine ⟨m + n + 1, ?_, .step hstep (hleads.trans hlast)⟩
    rw [behind_cons, List.length_cons, List.length_append]
    omega

/-- A bracket is crossable if its texts are passable. -/
private theorem crossable_bracketed {b : Bracket} {texts : List (List Char)}
    (h : ∀ t ∈ texts, Passable b t) (w : Gap) : Crossable (bracketed b w texts) := by
  intro opened rest _
  obtain ⟨n, hn, hleads⟩ := leads_row h opened true w rest
  have henter : enterValue opened (bracketed b w texts ++ rest) =
      .ok ⟨b :: opened, true, w.val ++ row b true texts rest⟩ := by
    rw [bracketed_append]
    cases b <;> rfl
  exact ⟨n, hn.trans (length_behind_le_bracketed b w texts), _, henter, hleads⟩

/-- What is no bracket is crossed at once. -/
private theorem crossable_scalar {text : List Char} (hopens : Opens ']' text)
    (hsquare : text.head? ≠ some '[') (hcurly : text.head? ≠ some '{')
    (h : ∀ rest, Ends rest → skipScalar (text ++ rest) = .ok rest) : Crossable text := by
  intro opened rest hrest
  have hscalar := h rest hrest
  have hblanks := hopens.skipBlanks rest
  obtain ⟨c, cs, rfl, -, -⟩ := hopens
  have henter : enterValue opened (c :: cs ++ rest) = .ok ⟨opened, false, rest⟩ := by
    rw [List.cons_append] at hscalar hblanks ⊢
    rw [enterValue, hblanks]
    simp_all [bind, Except.bind]
  exact ⟨0, Nat.zero_le _, _, henter, .here _⟩

/-- Blanks around a value are crossed with it, up to those behind it. -/
private theorem Crossable.padded {core text : List Char} (h : Crossable core)
    (hpadded : Padded core text) (opened : List Bracket) {rest : List Char} (hrest : Ends rest) :
    ∃ n ≤ text.length, ∃ w : Gap, Crosses opened (text ++ rest) n (w.val ++ rest) := by
  obtain ⟨w, w', rfl⟩ := hpadded
  obtain ⟨n, hn, s, henter, hleads⟩ := h opened _ (hrest.gap w')
  refine ⟨n, ?_, w', s, ?_, hleads⟩
  · simp only [List.length_append]
    omega
  · rw [← enterValue_skipBlanks, List.append_assoc, List.append_assoc, skipBlanks_gap,
      enterValue_skipBlanks, henter]

private theorem passable_item {core text : List Char} (h : Crossable core) (hopens : Opens ']' core)
    (hpadded : Padded core text) : Passable .square text := by
  constructor
  · intro rest
    obtain ⟨w, w', rfl⟩ := hpadded
    have hblanks := hopens.skipBlanks (w'.val ++ rest)
    obtain ⟨c, cs, rfl, -, hc⟩ := hopens
    rw [List.append_assoc, List.append_assoc, skipBlanks_gap, hblanks]
    exact ⟨c, _, rfl, hc⟩
  · intro opened rest hrest
    exact ⟨_, rfl, h.padded hpadded opened hrest⟩

private theorem passable_entry {core : List Char} {e : Entry} (h : Crossable core)
    (hkey : StringForm e.key) (hpadded : Padded core e.value) : Passable .curly e.text := by
  constructor
  · intro rest
    exact ⟨'"', _, e.skipBlanks_text rest, by decide⟩
  · intro opened rest hrest
    have hstart : skipToValue .curly (e.text ++ rest) = .ok (e.value ++ rest) := by
      rw [skipToValue, skipKey, e.skipBlanks_text, Entry.inner]
      simp only [skipString_form hkey, bind, Except.bind, expectColon_gap]
    obtain ⟨n, hn, hcrosses⟩ := h.padded hpadded opened hrest
    exact ⟨_, hstart, n, hn.trans e.length_value_lt.le, hcrosses⟩

/-- **Every value is crossed** inside any brackets. -/
theorem Grammatical.crossable {text : List Char} (h : Grammatical text) : Crossable text := by
  induction h with
  | null => exact crossable_scalar null.opens (by simp) (by simp) fun _ _ => rfl
  | true => exact crossable_scalar true.opens (by simp) (by simp) fun _ _ => rfl
  | false => exact crossable_scalar false.opens (by simp) (by simp) fun _ _ => rfl
  | number h =>
    have hopens := (number h).opens
    have hskip (rest : List Char) (hrest : Ends rest) := skipNumber_form h hrest
    obtain ⟨c, cs, rfl, hc⟩ := h.cons
    have hne : c ≠ '"' ∧ c ≠ 'n' ∧ c ≠ 't' ∧ c ≠ 'f' ∧ c ≠ '[' ∧ c ≠ '{' := by
      refine ⟨?_, ?_, ?_, ?_, ?_, ?_⟩ <;> exact ne_of_sign_or_digit hc (by decide)
    refine crossable_scalar hopens (by simp [hne]) (by simp [hne]) fun rest hrest => ?_
    have hnumber := hskip rest hrest
    rw [List.cons_append] at hnumber ⊢
    simp [skipScalar, hne, hc, hnumber]
  | string h =>
    refine crossable_scalar (string h).opens (by simp) (by simp) fun rest _ => ?_
    simp [skipScalar, skipString_form h]
  | array w core hvalues hpadded ih =>
    refine crossable_bracketed (fun t ht => ?_) w
    exact passable_item (ih t ht) (hvalues t ht).opens (hpadded t ht)
  | object w core hkeys hvalues hpadded ih =>
    refine crossable_bracketed (fun text htext => ?_) w
    obtain ⟨e, he, rfl⟩ := List.mem_map.mp htext
    exact passable_entry (ih e he) (hkeys e he) (hpadded e he)

/-- **Values that nobody asked for are passed over**, with the blanks before them. -/
theorem skip_grammatical {core text rest : List Char} (h : Grammatical core)
    (hpadded : Padded core text) (hrest : Ends rest) :
    ∃ w : Gap, skip (text ++ rest) = .ok (w.val ++ rest) := by
  obtain ⟨n, hn, w, s, henter, hleads⟩ := h.crossable.padded hpadded [] hrest
  have hbound : n ≤ (text ++ rest).length := by
    rw [List.length_append]
    omega
  refine ⟨w, ?_⟩
  rw [skip, henter]
  exact hleads.leaveAll hbound

end Contention.Json
