import Mathlib.Data.List.DropRight
import Mathlib.Data.Nat.Digits.Defs
import Contention.Text.Blank
import Contention.Text.Numeral

/-!
# What texts say

Settings are named and given in plain text, and four things are done to such a text: it is trimmed,
it is cut at a separator, it is read as a numeral, and it is put in lower case. Each of them has a
description here that does not tell how it is done:

* `Trims` for the text without the blanks at its ends (`trims_iff`);
* `Cut` for the parts between separators (`cut_iff`);
* `Denotes` for numerals, by the place values of their digits (`readInt?_eq_some_iff`);
* `IsLowerCasing` for lower case. For the few words that are ever asked for it is enough to change
  the letters of ASCII (`IsLowerCasing.ofList_eq_iff`).
-/

namespace Contention.Text

/-! ### Trimming -/

/-- A text of blanks. -/
def AllBlank (cs : List Char) : Prop := ∀ c ∈ cs, isBlank c = true

/-- A text with a blank at neither end. -/
def IsTight (cs : List Char) : Prop :=
  (∀ c ∈ cs.head?, isBlank c = false) ∧ ∀ c ∈ cs.getLast?, isBlank c = false

/-- `core` is the text without the blanks at its two ends. -/
def Trims (cs core : List Char) : Prop :=
  IsTight core ∧ ∃ left right, cs = left ++ core ++ right ∧ AllBlank left ∧ AllBlank right

theorem AllBlank.notMem {cs : List Char} (h : AllBlank cs) {c : Char} (hc : isBlank c = false) :
    c ∉ cs := fun hmem => by simp [h c hmem] at hc

private theorem trimLeft_append {left : List Char} (h : AllBlank left) (cs : List Char) :
    trimLeft (left ++ cs) = trimLeft cs := List.dropWhile_append_of_pos h

private theorem trimRight_append {right : List Char} (h : AllBlank right) (cs : List Char) :
    trimRight (cs ++ right) = trimRight cs := by
  have hreverse : ∀ c ∈ right.reverse, isBlank c = true := fun c hc => h c (List.mem_reverse.mp hc)
  rw [trimRight, List.reverse_append, List.dropWhile_append_of_pos hreverse, trimRight]

private theorem trimLeft_of_head {cs : List Char} (h : ∀ c ∈ cs.head?, isBlank c = false) :
    trimLeft cs = cs := by
  cases cs with
  | nil => rfl
  | cons c rest => exact List.dropWhile_cons_of_neg (by rw [h c rfl]; decide)

private theorem trimRight_of_last {cs : List Char} (h : ∀ c ∈ cs.getLast?, isBlank c = false) :
    trimRight cs = cs := by
  have hreverse : trimLeft cs.reverse = cs.reverse := trimLeft_of_head (by simpa using h)
  rw [trimRight, ← trimLeft, hreverse, List.reverse_reverse]

/-- **Trimming finds the core.** -/
theorem trims_trim (cs : List Char) : Trims cs (trim cs) := by
  have hright : trim cs = (trimLeft cs).rdropWhile isBlank := rfl
  refine ⟨⟨fun c hc => ?_, fun c hc => ?_⟩, cs.takeWhile isBlank,
    (trimLeft cs).rtakeWhile isBlank, ?_, fun c hc => List.mem_takeWhile_imp hc,
    fun c hc => List.mem_rtakeWhile_imp hc⟩
  · -- what starts the trimmed text starts the text without its leading blanks
    obtain ⟨rest, hrest⟩ := List.rdropWhile_prefix isBlank (trimLeft cs)
    have hhead : (trimLeft cs).head? = some c := by
      rw [← hrest, ← hright, List.head?_append, Option.mem_def.mp hc]
      rfl
    have hnot := List.head?_dropWhile_not isBlank cs
    rw [← trimLeft, hhead] at hnot
    exact hnot
  · rw [hright] at hc
    obtain ⟨hne, rfl⟩ := List.mem_getLast?_eq_getLast hc
    exact Bool.eq_false_iff.mpr (List.rdropWhile_last_not isBlank (trimLeft cs) hne)
  · rw [hright, List.append_assoc, List.rdropWhile_append_rtakeWhile, trimLeft,
      List.takeWhile_append_dropWhile]

/-- **A text has one core.** -/
theorem Trims.trim_eq {cs core : List Char} (h : Trims cs core) : trim cs = core := by
  obtain ⟨⟨hhead, hlast⟩, left, right, rfl, hleft, hright⟩ := h
  rw [List.append_assoc, trim, trimLeft_append hleft]
  cases core with
  | nil =>
    have hnil := trimLeft_append hright []
    rw [List.append_nil] at hnil
    rw [List.nil_append, hnil]
    rfl
  | cons c rest =>
    have hwhole : trimLeft (c :: rest ++ right) = c :: rest ++ right := trimLeft_of_head hhead
    rw [hwhole, trimRight_append hright, trimRight_of_last hlast]

theorem trims_iff {cs core : List Char} : Trims cs core ↔ trim cs = core :=
  ⟨Trims.trim_eq, fun h => h ▸ trims_trim cs⟩

theorem trim_blank_append {left : List Char} (h : AllBlank left) (cs : List Char) :
    trim (left ++ cs) = trim cs := by rw [trim, trimLeft_append h, trim]

theorem trim_append_blank {right : List Char} (h : AllBlank right) (cs : List Char) :
    trim (cs ++ right) = trim cs := by
  obtain ⟨htight, left, right', hcs, hleft, hright'⟩ := trims_trim cs
  refine Trims.trim_eq ⟨htight, left, right' ++ right, ?_, hleft, ?_⟩
  · conv_lhs => rw [hcs]
    rw [List.append_assoc _ right']
  · exact fun c hc => (List.mem_append.mp hc).elim (hright' c) (h c)

theorem IsTight.trim_eq {cs : List Char} (h : IsTight cs) : trim cs = cs :=
  Trims.trim_eq ⟨h, [], [], by simp, nofun, nofun⟩

theorem trim_trimLeft (cs : List Char) : trim (trimLeft cs) = trim cs := by
  rw [trim, trimLeft, trimLeft, List.dropWhile_idempotent, trim, trimLeft]

theorem trim_trimRight (cs : List Char) : trim (trimRight cs) = trim cs := by
  have hblank : AllBlank (cs.rtakeWhile isBlank) := fun c hc => List.mem_rtakeWhile_imp hc
  have hcs : trimRight cs ++ cs.rtakeWhile isBlank = cs := List.rdropWhile_append_rtakeWhile
  conv_rhs => rw [← hcs, trim_append_blank hblank]

private theorem trimLeft_append_cons {c : Char} (hc : isBlank c = false)
    (before after : List Char) :
    trimLeft (before ++ c :: after) = trimLeft before ++ c :: after := by
  rw [trimLeft, List.dropWhile_append, List.dropWhile_cons_of_neg (by simp [hc]), ← trimLeft]
  split
  · next hnil => rw [List.isEmpty_iff.mp hnil, List.nil_append]
  · rfl

/-- Around a character that is no blank, the two sides are trimmed apart. -/
theorem trim_append_cons {c : Char} (hc : isBlank c = false) (before after : List Char) :
    trim (before ++ c :: after) = trimLeft before ++ c :: trimRight after := by
  have hreverse : (trimLeft before ++ c :: after).reverse =
      after.reverse ++ c :: (trimLeft before).reverse := by simp
  rw [trim, trimLeft_append_cons hc, trimRight, hreverse, ← trimLeft, trimLeft_append_cons hc]
  simp [trimRight, trimLeft]

/-- Of what is no blank, nothing is lost. -/
theorem mem_trim {cs : List Char} {c : Char} (hc : isBlank c = false) : c ∈ trim cs ↔ c ∈ cs := by
  obtain ⟨-, left, right, hcs, hleft, hright⟩ := trims_trim cs
  conv_rhs => rw [hcs]
  simp [hleft.notMem hc, hright.notMem hc]

/-! ### Cutting -/

/-- The parts between the separators of a text. -/
inductive Cut (separator : Char) : List Char → List (List Char) → Prop
  | last {part : List Char} (hpart : separator ∉ part) : Cut separator part [part]
  | more {part rest : List Char} {parts : List (List Char)} (hpart : separator ∉ part)
      (hrest : Cut separator rest parts) : Cut separator (part ++ separator :: rest) (part :: parts)

variable {separator : Char}

theorem Cut.splitOn_eq {cs : List Char} {parts : List (List Char)} (h : Cut separator cs parts) :
    cs.splitOn separator = parts := by
  induction h with
  | last hpart => exact List.splitOn_eq_singleton hpart
  | more hpart _ ih => rw [List.splitOn_append_cons_self_of_not_mem hpart, ih]

theorem exists_cut (separator : Char) (cs : List Char) : ∃ parts, Cut separator cs parts := by
  induction cs with
  | nil => exact ⟨_, .last List.not_mem_nil⟩
  | cons c rest ih =>
    obtain ⟨parts, hparts⟩ := ih
    by_cases hc : separator = c
    · subst hc
      exact ⟨_, Cut.more List.not_mem_nil hparts⟩
    · -- any other character belongs to the first part
      cases hparts with
      | last hpart => exact ⟨_, .last (List.not_mem_cons_of_ne_of_not_mem hc hpart)⟩
      | more hpart hrest =>
        exact ⟨_, Cut.more (List.not_mem_cons_of_ne_of_not_mem hc hpart) hrest⟩

/-- **A text can be cut in one way.** -/
theorem cut_iff {cs : List Char} {parts : List (List Char)} :
    Cut separator cs parts ↔ cs.splitOn separator = parts := by
  refine ⟨Cut.splitOn_eq, ?_⟩
  rintro rfl
  obtain ⟨parts, hparts⟩ := exists_cut separator cs
  rw [hparts.splitOn_eq]
  exact hparts

/-! ### Numerals -/

/-- A row of digits. -/
def IsDigits (ds : List Char) : Prop := ds ≠ [] ∧ ∀ d ∈ ds, d.isDigit = true

/-- The number with these digits in base ten, the ones at the end. -/
def placeValue (ds : List Char) : Nat :=
  Nat.ofDigits 10 (ds.map fun d => d.toNat - '0'.toNat).reverse

/-- **Numerals** are rows of digits with an optional sign. -/
inductive Denotes : List Char → Int → Prop
  | unsigned {ds : List Char} (h : IsDigits ds) : Denotes ds (placeValue ds)
  | plus {ds : List Char} (h : IsDigits ds) : Denotes ('+' :: ds) (placeValue ds)
  | minus {ds : List Char} (h : IsDigits ds) : Denotes ('-' :: ds) (-(placeValue ds : Int))

private theorem ofDigitChars_eq_placeValue (ds : List Char) :
    Nat.ofDigitChars 10 ds 0 = placeValue ds := by
  induction ds with
  | nil => rfl
  | cons d rest ih =>
    rw [Nat.ofDigitChars_cons, Nat.ofDigitChars_eq_ofDigitChars_zero, ih, placeValue, placeValue,
      List.map_cons, Nat.ofDigits_reverse_cons, List.length_map, Nat.mul_zero, Nat.zero_add,
      Nat.add_comm]

theorem readDigits?_eq_some_iff {ds : List Char} {n : Nat} :
    readDigits? ds = some n ↔ IsDigits ds ∧ placeValue ds = n := by
  simp [readDigits?, IsDigits, ofDigitChars_eq_placeValue]

private theorem readInt?_of_isDigits {ds : List Char} (h : IsDigits ds) :
    readInt? ds = (readDigits? ds).map fun (n : Nat) => (n : Int) := by
  obtain ⟨d, rest, rfl⟩ := List.exists_cons_of_ne_nil h.1
  have hd := h.2 d List.mem_cons_self
  rw [readInt?]
  · rintro _ ⟨rfl, -⟩
    simp at hd
  · rintro _ ⟨rfl, -⟩
    simp at hd

theorem readInt?_eq_some_iff {cs : List Char} {z : Int} : readInt? cs = some z ↔ Denotes cs z := by
  constructor
  · intro h
    rw [readInt?.eq_def] at h
    split at h <;> obtain ⟨n, hn, rfl⟩ := Option.map_eq_some_iff.mp h <;>
      obtain ⟨hds, rfl⟩ := readDigits?_eq_some_iff.mp hn
    · exact .minus hds
    · exact .plus hds
    · exact .unsigned hds
  · intro h
    cases h with
    | unsigned hds => rw [readInt?_of_isDigits hds, readDigits?_eq_some_iff.mpr ⟨hds, rfl⟩]; rfl
    | plus hds => rw [readInt?, readDigits?_eq_some_iff.mpr ⟨hds, rfl⟩]; rfl
    | minus hds => rw [readInt?, readDigits?_eq_some_iff.mpr ⟨hds, rfl⟩]; rfl

/-- A numeral of an integer of 32 bits. -/
def DenotesInt32 (cs : List Char) (z : Int) : Prop :=
  Denotes cs z ∧ -2 ^ 31 ≤ z ∧ z ≤ 2 ^ 31 - 1

theorem readInt32?_eq_some_iff {cs : List Char} {z : Int} :
    readInt32? cs = some z ↔ DenotesInt32 cs z := by
  rw [readInt32?, Option.filter_eq_some_iff, readInt?_eq_some_iff, Bool.and_eq_true,
    decide_eq_true_iff, decide_eq_true_iff, DenotesInt32]
  norm_num [int32Range]

theorem Denotes.isDigit_or_sign {cs : List Char} {z : Int} (h : Denotes cs z) {c : Char}
    (hc : c ∈ cs) : c.isDigit = true ∨ c = '+' ∨ c = '-' := by
  cases h with
  | unsigned hds => exact .inl (hds.2 c hc)
  | plus hds =>
    rcases List.mem_cons.mp hc with rfl | hc
    · exact .inr (.inl rfl)
    · exact .inl (hds.2 c hc)
  | minus hds =>
    rcases List.mem_cons.mp hc with rfl | hc
    · exact .inr (.inr rfl)
    · exact .inl (hds.2 c hc)

/-! ### Lower case -/

/-- A character of ASCII. -/
def IsAscii (c : Char) : Prop := c.toNat < 128

instance : DecidablePred IsAscii := fun c => inferInstanceAs (Decidable (c.toNat < 128))

/-- **Lower-casing.** A text of ASCII characters is changed letter by letter. What is outside of
ASCII stays outside, in whatever context; the one exception is the Kelvin sign, which becomes a
`k`. -/
structure IsLowerCasing (lower : List Char → List Char) : Prop where
  ascii : ∀ cs, (∀ c ∈ cs, IsAscii c) → lower cs = cs.map Char.toLower
  other : ∀ cs, (∃ c ∈ cs, ¬IsAscii c) → ∃ c ∈ lower cs, ¬IsAscii c ∨ c = 'k'

theorem toLower_of_not_isAscii {c : Char} (h : ¬IsAscii c) : c.toLower = c := by
  have hletter : ¬(c.val ≥ 'A'.val ∧ c.val ≤ 'Z'.val) := by
    rintro ⟨-, hle⟩
    exact h (Nat.lt_of_le_of_lt (UInt32.le_iff_toNat_le.mp hle) (by decide))
  exact dif_neg hletter

/-- **Which lower case is meant does not matter** to a word of ASCII characters without a `k`. -/
theorem IsLowerCasing.ofList_eq_iff {lower : List Char → List Char} (h : IsLowerCasing lower)
    {word : String} (hword : ∀ c ∈ word.toList, IsAscii c ∧ c ≠ 'k') (cs : List Char) :
    String.ofList (lower cs) = word ↔ String.ofList (cs.map Char.toLower) = word := by
  have hlist (ds : List Char) : String.ofList ds = word ↔ ds = word.toList :=
    ⟨fun h => by rw [← h, String.toList_ofList], fun h => by rw [h, String.ofList_toList]⟩
  rw [hlist, hlist]
  by_cases hcs : ∀ c ∈ cs, IsAscii c
  · rw [h.ascii cs hcs]
  · obtain ⟨c, hc, hnot⟩ : ∃ c ∈ cs, ¬IsAscii c := by simpa using hcs
    refine iff_of_false (fun heq => ?_) fun heq => ?_
    · obtain ⟨d, hd, hodd⟩ := h.other cs ⟨c, hc, hnot⟩
      obtain ⟨hascii, hk⟩ := hword d (heq ▸ hd)
      exact hodd.elim (· hascii) hk
    · have hmem : c ∈ word.toList := by
        rw [← heq, ← toLower_of_not_isAscii hnot]
        exact List.mem_map_of_mem hc
      exact hnot (hword c hmem).1

end Contention.Text
