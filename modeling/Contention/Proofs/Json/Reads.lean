import Mathlib.Data.List.TakeDrop
import Contention.Json.Quote
import Contention.Json.Schema

/-!
# Compact texts read back

`Reads item text a` says that a reader takes just this text and gives `a`, whatever stands behind
it as long as that cannot prolong a number. It is proved for what is written compactly: numerals
(`reads_integer`), quoted strings (`reads_string`), arrays (`reads_list`) and objects that hold
some fields of a schema (`Schema.reads_object`). What an object's members do to a structure, one
after the other, is the relation `Schema.Fills`.
-/

namespace Contention.Json

open Text (digits numeral)

/-- The text does not go on with what would belong to a number before it. -/
def Ends (rest : List Char) : Prop :=
  ∀ c ∈ rest.head?, c.isDigit = false ∧ c ≠ '.' ∧ c ≠ 'e' ∧ c ≠ 'E'

/-- The reader takes this text and gives `a`. -/
def Reads (item : Reader α) (text : List Char) (a : α) : Prop :=
  ∀ rest, Ends rest → item (text ++ rest) = .ok (a, rest)

theorem ends_nil : Ends [] := by simp [Ends]

private theorem ends_cons {c : Char} {rest : List Char} (h : c = ',' ∨ c = ']' ∨ c = '}') :
    Ends (c :: rest) := by
  rcases h with rfl | rfl | rfl <;> simp [Ends]

theorem Reads.whole {item : Reader α} {text : String} {a : α} (h : Reads item text.toList a) :
    whole item text = .ok a := by
  have htext := h [] ends_nil
  rw [List.append_nil] at htext
  rw [Json.whole, htext]
  rfl

/-! ### Numbers -/

/-- Only the numeral of zero starts with a zero. -/
private theorem head?_digits {n : Nat} (hn : 0 < n) : (digits n).head? ≠ some '0' := by
  induction n using Nat.strongRecOn with
  | ind n ih =>
    rw [digits, Nat.toDigits_eq_if (by decide)]
    split
    · next hlt =>
      have hdigit : ∀ d < 10, 0 < d → Nat.digitChar d ≠ '0' := by decide
      simpa using hdigit n hlt hn
    · next hle =>
      -- a longer numeral starts like that of the tenth part
      have hdiv : 0 < n / 10 := Nat.div_pos (Nat.le_of_not_lt hle) (by decide)
      obtain ⟨c, cs, hcs⟩ := List.exists_cons_of_ne_nil (Text.digits_ne_nil (n / 10))
      have hhead := ih (n / 10) (by omega) hdiv
      rw [digits] at hcs hhead
      rw [hcs] at hhead ⊢
      exact hhead

/-- A row of digits is taken whole if no further digit follows. -/
theorem someDigits_append {ds rest : List Char} (hne : ds ≠ [])
    (hall : ∀ c ∈ ds, c.isDigit = true) (hrest : ∀ c ∈ rest.head?, c.isDigit = false) :
    someDigits (ds ++ rest) = .ok (ds, rest) := by
  have hnone : rest.takeWhile Char.isDigit = [] ∧ rest.dropWhile Char.isDigit = rest := by
    cases rest with
    | nil => exact ⟨rfl, rfl⟩
    | cons c cs =>
      have hc : c.isDigit = false := hrest c rfl
      simp [hc]
  have hspan : (ds ++ rest).span Char.isDigit = (ds, rest) := by
    rw [List.span_eq_takeWhile_dropWhile, List.takeWhile_append_of_pos hall,
      List.dropWhile_append_of_pos hall, hnone.1, hnone.2, List.append_nil]
  obtain ⟨c, cs, rfl⟩ := List.exists_cons_of_ne_nil hne
  rw [someDigits, hspan]

private theorem someDigits_digits (n : Nat) {rest : List Char} (hrest : Ends rest) :
    someDigits (digits n ++ rest) = .ok (digits n, rest) :=
  someDigits_append (Text.digits_ne_nil n) (fun _ => Text.isDigit_of_mem_digits)
    fun c hc => (hrest c hc).1

private theorem scanWhole_digits (n : Nat) {rest : List Char} (hrest : Ends rest) :
    scanWhole (digits n ++ rest) = .ok (digits n, rest) := by
  rw [scanWhole, someDigits_digits n hrest]
  simp only [bind, Except.bind]
  split
  · next hzero =>
    -- a longer numeral that starts with a zero would be that of zero
    rcases Nat.eq_zero_or_pos n with rfl | hn
    · simp [digits] at hzero
    · exact absurd (congrArg List.head? hzero) (head?_digits hn)
  · rfl

/-- Where a number ends there is no fraction. -/
theorem Ends.scanFraction {rest : List Char} (hrest : Ends rest) :
    scanFraction rest = .ok ([], rest) := by
  cases rest with
  | nil => rfl
  | cons c cs =>
    rw [Json.scanFraction]
    rintro _ ⟨rfl, -⟩
    exact (hrest '.' rfl).2.1 rfl

/-- Where a number ends there is no exponent. -/
theorem Ends.scanExponent {rest : List Char} (hrest : Ends rest) :
    scanExponent rest = .ok (none, rest) := by
  cases rest with
  | nil => rfl
  | cons c cs =>
    obtain ⟨-, -, he, hE⟩ := hrest c rfl
    simp [Json.scanExponent, he, hE]

/-- Without a point and an exponent a numeral has no further parts. -/
private theorem scanNumber_numeral (z : Int) {rest : List Char} (hrest : Ends rest) :
    scanNumber (numeral z ++ rest) =
      .ok ({ negative := decide (z < 0), whole := digits z.natAbs }, rest) := by
  have hfraction := hrest.scanFraction
  have hexponent := hrest.scanExponent
  have hwhole := scanWhole_digits z.natAbs hrest
  by_cases hz : z < 0
  · rw [numeral, if_pos hz]
    simp [scanNumber, hwhole, hfraction, hexponent, hz, bind, Except.bind]
  · rw [numeral, if_neg hz]
    obtain ⟨c, cs, hcs⟩ := List.exists_cons_of_ne_nil (Text.digits_ne_nil z.natAbs)
    have hc : c.isDigit = true := Text.isDigit_of_mem_digits (hcs ▸ List.mem_cons_self)
    have hne : c ≠ '-' := by
      rintro rfl
      simp at hc
    rw [hcs, List.cons_append] at hwhole
    rw [hcs, List.cons_append]
    simp [scanNumber, hne, hwhole, hfraction, hexponent, hz, bind, Except.bind]

/-- Digits are appended as long as the number fits into 64 bits. -/
private theorem appendDigits_eq (n : Nat) (ds : List Char)
    (h : Nat.ofDigitChars 10 ds n < UInt64.size) :
    appendDigits n ds = (Nat.ofDigitChars 10 ds n, 0) := by
  induction ds generalizing n with
  | nil => simp [appendDigits]
  | cons d ds ih =>
    rw [Nat.ofDigitChars_cons] at h ⊢
    -- appending digits makes no number smaller, so the last one fits only if all do
    have hle : 10 * n + (d.toNat - 48) ≤ Nat.ofDigitChars 10 ds (10 * n + (d.toNat - 48)) := by
      rw [Nat.ofDigitChars_eq_ofDigitChars_zero]
      exact Nat.le_trans (Nat.le_mul_of_pos_left _ (Nat.pow_pos (by decide))) (Nat.le_add_right _ _)
    rw [appendDigits, if_pos (Nat.lt_of_le_of_lt hle h)]
    exact ih _ h

/-- The number fits into 64 bits, with a sign if it is negative. -/
def Fits (z : Int) : Prop := -(greatestNegated : Int) ≤ z ∧ z < UInt64.size

/-- A natural number of 64 bits fits. -/
theorem fits_word (n : UInt64) : Fits n.toNat := by
  have hlt : n.toNat < UInt64.size := n.toNat_lt
  simp only [Fits, greatestNegated, UInt64.size] at hlt ⊢
  omega

/-- A signed integer of 64 bits fits. -/
theorem fits_int64 (i : Int64) : Fits i.toInt := by
  have hlow : -2 ^ 63 ≤ i.toInt := i.le_toInt
  have hhigh : i.toInt < 2 ^ 63 := i.toInt_lt
  simp only [Fits, greatestNegated, UInt64.size]
  omega

/-- **Numerals read back** if they fit into 64 bits. -/
theorem reads_number {z : Int} (hz : Fits z) : Reads number (numeral z) (.integer z) := by
  intro rest hrest
  simp only [Fits, greatestNegated, UInt64.size] at hz
  have hvalue : Nat.ofDigitChars 10 (digits z.natAbs) 0 = z.natAbs := Nat.ofDigitChars_ten_toDigits
  have hdigits : appendDigits 0 (digits z.natAbs) = (z.natAbs, 0) := by
    have hsize : z.natAbs < UInt64.size := by
      simp only [UInt64.size]
      omega
    rw [appendDigits_eq _ _ (hvalue.symm ▸ hsize), hvalue]
  have hliteral : Literal.value { negative := decide (z < 0), whole := digits z.natAbs } =
      .ok (.integer z) := by
    simp only [Literal.value, hdigits, and_self, if_true]
    by_cases hz : z < 0
    · have hrange : 1 ≤ z.natAbs ∧ z.natAbs ≤ greatestNegated := by
        rw [greatestNegated]
        omega
      have hvalue : -(z.natAbs : Int) = z := by omega
      rw [if_pos (decide_eq_true hz), if_pos hrange, hvalue]
    · have hvalue : (z.natAbs : Int) = z := by omega
      rw [if_neg (decide_eq_true_iff.not.mpr hz), hvalue]
  rw [number, scanNumber_numeral z hrest]
  simp only [bind, Except.bind, hliteral]

/-! ### Single values -/

/-- The text starts with a value other than `null`, without blanks before it. -/
def Starts (text : List Char) : Prop :=
  ∃ c cs, text = c :: cs ∧ isBlank c = false ∧ c ≠ ']' ∧ c ≠ 'n'

theorem starts_quote (s : String) : Starts (quote s) :=
  ⟨'"', _, rfl, by decide, by decide, by decide⟩

/-- A numeral starts with a sign or a digit. -/
theorem numeral_cons (z : Int) :
    ∃ c cs, numeral z = c :: cs ∧ (c = '-' ∨ c.isDigit = true) := by
  rw [numeral]
  split
  · exact ⟨'-', _, rfl, .inl rfl⟩
  · obtain ⟨c, cs, hcs⟩ := List.exists_cons_of_ne_nil (Text.digits_ne_nil z.natAbs)
    exact ⟨c, cs, hcs, .inr (Text.isDigit_of_mem_digits (hcs ▸ List.mem_cons_self))⟩

/-- Signs and digits are no other characters. -/
theorem ne_of_sign_or_digit {c d : Char} (hc : c = '-' ∨ c.isDigit = true)
    (hd : d ≠ '-' ∧ d.isDigit = false) : c ≠ d := by
  rintro rfl
  rcases hc with rfl | hc
  · exact hd.1 rfl
  · exact Bool.false_ne_true (hd.2.symm.trans hc)

/-- Signs and digits are no blanks. -/
theorem isBlank_of_sign_or_digit {c : Char} (hc : c = '-' ∨ c.isDigit = true) :
    isBlank c = false := by
  have hne : c ≠ ' ' ∧ c ≠ '\t' ∧ c ≠ '\n' ∧ c ≠ '\r' := by
    refine ⟨?_, ?_, ?_, ?_⟩ <;> exact ne_of_sign_or_digit hc (by decide)
  simp [isBlank, hne]

theorem starts_numeral (z : Int) : Starts (numeral z) := by
  obtain ⟨c, cs, hcs, hc⟩ := numeral_cons z
  exact ⟨c, cs, hcs, isBlank_of_sign_or_digit hc, ne_of_sign_or_digit hc (by decide),
    ne_of_sign_or_digit hc (by decide)⟩

theorem reads_string (s : String) : Reads string (quote s) s := fun rest _ => string_quote s rest

theorem Starts.skipBlanks {text : List Char} (h : Starts text) (rest : List Char) :
    skipBlanks (text ++ rest) = text ++ rest := by
  obtain ⟨c, cs, rfl, hc, -⟩ := h
  simp [Json.skipBlanks, hc]

/-- A numeral reads back as an integer between two bounds. -/
theorem reads_integer {expected : Expected} {low high z : Int} (hlow : low ≤ z) (hhigh : z ≤ high)
    (hz : Fits z) : Reads (integer expected low high) (numeral z) z := by
  intro rest hrest
  have hnumber := reads_number hz rest hrest
  obtain ⟨c, cs, hcs, hc⟩ := numeral_cons z
  rw [integer, (starts_numeral z).skipBlanks]
  rw [hcs, List.cons_append] at hnumber ⊢
  simp only [hc, if_true, hnumber, bind, Except.bind, hlow, hhigh, and_self]

theorem reads_word (expected : Expected) (n : UInt64) :
    Reads (word expected) (numeral n.toNat) n := by
  intro rest hrest
  have hlt : n.toNat < 2 ^ 64 := n.toNat_lt
  have hread := @reads_integer expected 0 18446744073709551615 n.toNat (by omega) (by omega)
    (fits_word n) rest hrest
  rw [word, hread]
  simp [bind, Except.bind]

theorem reads_int64 (i : Int64) : Reads int64 (numeral i.toInt) i := by
  intro rest hrest
  have hlow : -2 ^ 63 ≤ i.toInt := i.le_toInt
  have hhigh : i.toInt < 2 ^ 63 := i.toInt_lt
  have hread := @reads_integer .int64 (-9223372036854775808) 9223372036854775807 i.toInt
    (by omega) (by omega) (fits_int64 i) rest hrest
  rw [int64, hread]
  simp [bind, Except.bind]

/-- A value that is not `null` is read as such. -/
theorem Reads.nullable {item : Reader α} {text : List Char} {a : α} (h : Reads item text a)
    (hstarts : Starts text) : Reads (nullable item) text (some a) := by
  intro rest hrest
  have hitem := h rest hrest
  have hblanks := hstarts.skipBlanks rest
  obtain ⟨c, cs, rfl, -, -, hn⟩ := hstarts
  rw [List.cons_append] at hitem hblanks ⊢
  rw [Json.nullable, hblanks]
  simp [hn, hitem, bind, Except.bind]

/-! ### Texts between brackets -/

/-- What stands behind the first of some texts: the others, each behind a comma, and the closing
bracket. -/
def behind (closing : Char) (texts : List (List Char)) (rest : List Char) : List Char :=
  texts.flatMap (',' :: ·) ++ closing :: rest

theorem behind_cons (closing : Char) (text : List Char) (texts : List (List Char))
    (rest : List Char) :
    behind closing (text :: texts) rest = ',' :: (text ++ behind closing texts rest) := by
  simp [behind]

/-- Between brackets stands the first text, and then what is behind it. -/
theorem commaSeparated_append (closing : Char) (text : List Char) (texts : List (List Char))
    (rest : List Char) :
    commaSeparated (text :: texts) ++ closing :: rest = text ++ behind closing texts rest := by
  induction texts generalizing text with
  | nil => simp [commaSeparated, behind]
  | cons next texts ih =>
    have hsplit : commaSeparated (text :: next :: texts) =
        text ++ ',' :: commaSeparated (next :: texts) := rfl
    rw [hsplit, behind_cons, ← ih next, List.append_assoc, List.cons_append]

/-- No number can be prolonged by a comma or a bracket. -/
theorem ends_behind {closing : Char} (hc : closing = ']' ∨ closing = '}')
    (texts : List (List Char)) (rest : List Char) : Ends (behind closing texts rest) := by
  cases texts with
  | nil => exact ends_cons (.inr hc)
  | cons text texts => exact ends_cons (.inl rfl)

/-- Each text behind a comma takes up at least a character, and the bracket one more. -/
theorem length_lt_behind (closing : Char) (texts : List (List Char)) (rest : List Char) :
    texts.length < (behind closing texts rest).length := by
  induction texts with
  | nil => exact Nat.succ_pos _
  | cons text texts ih =>
    rw [behind_cons, List.length_cons, List.length_cons, List.length_append]
    omega

/-- Each text takes up its room. -/
theorem length_le_commaSeparated {text : List Char} {texts : List (List Char)}
    (h : text ∈ texts) : text.length ≤ (commaSeparated texts).length := by
  induction texts with
  | nil => cases h
  | cons first texts ih =>
    cases texts with
    | nil => simp_all [commaSeparated]
    | cons next texts =>
      have hsplit : commaSeparated (first :: next :: texts) =
          first ++ ',' :: commaSeparated (next :: texts) := rfl
      rw [hsplit, List.length_append, List.length_cons]
      rcases List.mem_cons.mp h with rfl | hmem
      · omega
      · have hle := ih hmem
        omega

/-! ### Arrays -/

/-- The items of an array behind its first one. -/
private theorem items_reads {item : Reader α} {texts : List (List Char)} {as : List α}
    (h : List.Forall₂ (fun text a => Starts text ∧ Reads item text a) texts as)
    {bound : List Char} (hbound : texts.length < bound.length) (done : List α) (rest : List Char) :
    items item bound false done (behind ']' texts rest) = .ok (done.reverse ++ as, rest) := by
  induction h generalizing bound done with
  | nil =>
    obtain ⟨b, bound, rfl⟩ := List.exists_cons_of_length_pos hbound
    simp [items, behind, nextItem, endArray, skipBlanks, isBlank, bind, Except.bind]
  | @cons text a texts as hhead _ ih =>
    obtain ⟨b, bound, rfl⟩ := List.exists_cons_of_length_pos (Nat.zero_lt_of_lt hbound)
    obtain ⟨hstarts, hread⟩ := hhead
    have hitem := hread _ (ends_behind (.inl rfl) texts rest)
    have hnext : nextItem false (',' :: (text ++ behind ']' texts rest)) =
        .ok (some (text ++ behind ']' texts rest)) := by
      have hblanks := hstarts.skipBlanks (behind ']' texts rest)
      obtain ⟨c, cs, rfl, -, hc, -⟩ := hstarts
      rw [List.cons_append] at hblanks ⊢
      have hcomma (cs : List Char) : skipBlanks (',' :: cs) = ',' :: cs := rfl
      simp [nextItem, hcomma, hblanks, hc]
    rw [behind_cons, items, hnext]
    simp only [bind, Except.bind, hitem]
    rw [ih (Nat.lt_of_succ_lt_succ hbound) (a :: done), List.reverse_cons, List.append_assoc,
      List.singleton_append]

/-- **Arrays read back** if their items do. -/
theorem reads_list {item : Reader α} {texts : List (List Char)} {as : List α}
    (h : List.Forall₂ (fun text a => Starts text ∧ Reads item text a) texts as) :
    Reads (list item) ('[' :: commaSeparated texts ++ [']']) as := by
  intro rest hrest
  have hopen (cs : List Char) : skipBlanks ('[' :: cs) = '[' :: cs := rfl
  rw [List.cons_append, List.cons_append, List.append_assoc, List.singleton_append, list, hopen]
  cases h with
  | nil =>
    simp [commaSeparated, items, nextItem, endArray, skipBlanks, isBlank, bind, Except.bind]
  | @cons text a texts as hhead htail =>
    -- no comma stands before the first item, so it is read apart from the others
    obtain ⟨hstarts, hread⟩ := hhead
    have hitem := hread _ (ends_behind (.inl rfl) texts rest)
    have hnext : nextItem true (text ++ behind ']' texts rest) =
        .ok (some (text ++ behind ']' texts rest)) := by
      have hblanks := hstarts.skipBlanks (behind ']' texts rest)
      obtain ⟨c, cs, rfl, -, hc, -⟩ := hstarts
      rw [List.cons_append] at hblanks ⊢
      simp [nextItem, hblanks]
    have hbound : texts.length < (text ++ behind ']' texts rest).length := by
      have hlt := length_lt_behind ']' texts rest
      rw [List.length_append]
      omega
    rw [commaSeparated_append]
    simp only [items, hnext, bind, Except.bind, hitem]
    exact items_reads htail hbound [a] rest

/-! ### Members -/

/-- The text of a member with this key and this text for its value. -/
def memberText (m : String × List Char) : List Char := quote m.1 ++ ':' :: m.2

/-- A member behind the opening quote of its key, and what follows it. -/
def behindQuote (m : String × List Char) (rest : List Char) : List Char :=
  m.1.toList.flatMap escaped ++ '"' :: ':' :: (m.2 ++ rest)

private theorem memberText_append (m : String × List Char) (rest : List Char) :
    memberText m ++ rest = '"' :: behindQuote m rest := by
  simp [memberText, behindQuote, quote]

/-- Behind the opening quote the key is read up to the colon. -/
theorem stringBody_behindQuote (m : String × List Char) (rest : List Char) :
    stringBody [] (behindQuote m rest) = .ok (m.1, ':' :: (m.2 ++ rest)) := by
  rw [behindQuote, stringBody_flatMap_escaped, List.reverse_nil, List.nil_append,
    String.ofList_toList]

/-- All members of an object but the first stand behind a comma. -/
theorem nextKey_behind (m : String × List Char) (ms : List (String × List Char))
    (rest : List Char) :
    Schema.nextKey false (behind '}' ((m :: ms).map memberText) rest) =
      .ok (some (behindQuote m (behind '}' (ms.map memberText) rest))) := by
  rw [List.map_cons, behind_cons, memberText_append]
  rfl

/-- The first member of an object stands behind the opening brace. -/
theorem nextKey_commaSeparated (m : String × List Char) (ms : List (String × List Char))
    (rest : List Char) :
    Schema.nextKey true (commaSeparated ((m :: ms).map memberText) ++ '}' :: rest) =
      .ok (some (behindQuote m (behind '}' (ms.map memberText) rest))) := by
  rw [List.map_cons, commaSeparated_append, memberText_append]
  rfl

/-- There is room for the other members behind the first one. -/
theorem length_lt_members (m : String × List Char) (ms : List (String × List Char))
    (rest : List Char) :
    ms.length < (commaSeparated ((m :: ms).map memberText) ++ '}' :: rest).length := by
  have hlt := length_lt_behind '}' (ms.map memberText) rest
  rw [List.length_map] at hlt
  rw [List.map_cons, commaSeparated_append, List.length_append]
  omega

/-! ### Objects -/

/-- A field reads what its item reads. -/
theorem Reads.field {item : Reader β} {text : List Char} {b : β} (h : Reads item text b)
    {key : String} {required : Bool} {set : α → β → α} {a : α} :
    Reads ((Field.of key required item set).read a) text (set a b) := by
  intro rest hrest
  have hitem := h rest hrest
  simp only [Field.of, hitem, bind, Except.bind]

namespace Schema

variable {α : Type} {s : Schema α}

/-- Reading these members, each a field that has not been seen before, takes the fields seen so far
and the structure so far to other ones. -/
inductive Fills (s : Schema α) :
    List String → α → List (String × List Char) → List String → α → Prop
  | done (seen : List String) (a : α) : Fills s seen a [] seen a
  | member {seen seen' : List String} {a a' last : α} {key : String} {text : List Char}
      {field : Field α} {rest : List (String × List Char)}
      (hfind : s.fields.find? (fun f => f.key == key) = some field) (hnew : key ∉ seen)
      (hread : Reads (field.read a) text a') (hrest : Fills s (key :: seen) a' rest seen' last) :
      Fills s seen a ((key, text) :: rest) seen' last

theorem Fills.append {seen seen' seen'' : List String} {a a' a'' : α}
    {ms ms' : List (String × List Char)} (h : Fills s seen a ms seen' a')
    (h' : Fills s seen' a' ms' seen'' a'') : Fills s seen a (ms ++ ms') seen'' a'' := by
  induction h with
  | done => exact h'
  | member hfind hnew hread _ ih => exact .member hfind hnew hread (ih h')

/-- A member behind the opening quote of its key. -/
private theorem member_reads {seen : List String} {a a' : α} {key : String} {text : List Char}
    {field : Field α} (hfind : s.fields.find? (fun f => f.key == key) = some field)
    (hnew : key ∉ seen) (hread : Reads (field.read a) text a') {rest : List Char}
    (hrest : Ends rest) :
    s.member seen a (behindQuote (key, text) rest) = .ok ((key :: seen, a'), rest) := by
  have hcolon : expectColon (':' :: (text ++ rest)) = .ok (text ++ rest) := rfl
  simp only [member, stringBody_behindQuote, bind, Except.bind, hfind, hnew, if_false, hcolon,
    hread rest hrest]

/-- The members of an object behind its first one. -/
private theorem members_reads {seen seen' : List String} {a last : α}
    {ms : List (String × List Char)} (h : Fills s seen a ms seen' last)
    (hcomplete : s.complete seen' last = .ok last) {bound : List Char}
    (hbound : ms.length < bound.length) (rest : List Char) :
    s.members bound false seen a (behind '}' (ms.map memberText) rest) = .ok (last, rest) := by
  induction h generalizing bound with
  | done seen a =>
    obtain ⟨b, bound, rfl⟩ := List.exists_cons_of_length_pos hbound
    simp [members, behind, nextKey, endObject, skipBlanks, isBlank, bind, Except.bind, hcomplete]
  | @member seen seen' a a' last key text field ms hfind hnew hread _ ih =>
    obtain ⟨b, bound, rfl⟩ := List.exists_cons_of_length_pos (Nat.zero_lt_of_lt hbound)
    have hmember := member_reads hfind hnew hread (ends_behind (.inr rfl) (ms.map memberText) rest)
    rw [members, nextKey_behind]
    simp only [bind, Except.bind, hmember]
    exact ih hcomplete (Nat.lt_of_succ_lt_succ hbound)

/-- **Objects read back** if their members fill the blank structure and leave out no required
field. -/
theorem reads_object {seen : List String} {a : α} {ms : List (String × List Char)}
    (h : Fills s [] s.blank ms seen a) (hcomplete : s.complete seen a = .ok a) :
    Reads s.read ('{' :: commaSeparated (ms.map memberText) ++ ['}']) a := by
  intro rest hrest
  have hopen (cs : List Char) : skipBlanks ('{' :: cs) = '{' :: cs := rfl
  rw [List.cons_append, List.cons_append, List.append_assoc, List.singleton_append, read, hopen]
  cases h with
  | done =>
    simp [commaSeparated, members, nextKey, endObject, skipBlanks, isBlank, bind, Except.bind,
      hcomplete]
  | @member _ _ _ a' _ key text field ms hfind hnew hread hfills =>
    -- as with arrays, the first member is read apart from the others
    have hmember := member_reads hfind hnew hread (ends_behind (.inr rfl) (ms.map memberText) rest)
    simp only [members, nextKey_commaSeparated, bind, Except.bind, hmember]
    exact members_reads hfills hcomplete (length_lt_members (key, text) ms rest) rest

end Schema

end Contention.Json
