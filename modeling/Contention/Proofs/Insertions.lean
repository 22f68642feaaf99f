import Mathlib.Logic.Relation
import Contention.Proofs.Options

/-!
# Blanks and commas that do not matter

Merging looks at what the pieces of an option string come to, its `readings`, and at nothing else
(`merge_congr`). Two laws say what they are: option strings with a comma between them are read one
after the other (`readings_append`), and a text without a comma has at most one reading
(`readings_part`).

So a change inside the first or the last text between commas can be judged by this text alone
(`readings_congr_first`, `readings_congr_last`), and blanks and commas that are inserted beside a
comma, at an end or around the first `=` of a piece change no reading (`Inserts.readings_eq`).
-/

namespace Contention.Options

open Text

/-! ### Readings -/

/-- What a text between commas comes to; nothing if it is blank. -/
def readPart? (part : List Char) : Option (Except OptionError Assignment) :=
  if trim part = [] then none else some (readPiece (trim part))

/-- What the pieces of an option string come to. -/
def readings (options : List Char) : List (Except OptionError Assignment) :=
  (optionPieces options).map readPiece

/-- **A comma** separates pieces. -/
theorem optionPieces_append (first later : List Char) :
    optionPieces (first ++ ',' :: later) = optionPieces first ++ optionPieces later := by
  rw [optionPieces, List.splitOn_append_cons_self, List.map_append, List.filter_append,
    ← optionPieces, ← optionPieces]

theorem readings_append (first later : List Char) :
    readings (first ++ ',' :: later) = readings first ++ readings later := by
  rw [readings, optionPieces_append, List.map_append, ← readings, ← readings]

theorem readings_part {part : List Char} (h : ',' ∉ part) :
    readings part = (readPart? part).toList := by
  rw [readings, optionPieces, List.splitOn_eq_singleton h, readPart?, List.map_singleton]
  cases trim part <;> rfl

private theorem readings_nil : readings [] = [] := rfl

/-- Merging pieces looks at what they come to only. -/
private theorem mergePieces_congr {pieces pieces' : List (List Char)}
    (h : pieces.map readPiece = pieces'.map readPiece) (c : Settings) :
    c.mergePieces pieces = c.mergePieces pieces' := by
  induction pieces generalizing pieces' c with
  | nil => rw [List.map_eq_nil_iff.mp h.symm]
  | cons piece rest ih =>
    obtain ⟨piece', rest', rfl, hpiece, hrest⟩ := List.map_eq_cons_iff.mp h.symm
    rw [Settings.mergePieces, Settings.mergePieces, hpiece]
    cases readPiece piece with
    | error e => rfl
    | ok a => exact ih hrest.symm (c.assign a)

/-- **Merging** looks at readings only. -/
theorem merge_congr {options options' : String}
    (h : readings options.toList = readings options'.toList) (c : Settings) :
    c.merge options = c.merge options' :=
  mergePieces_congr h c

/-! ### The first and the last text between commas -/

/-- What starts an option string can be exchanged if this changes no text between commas. -/
theorem readings_congr_first {start start' : List Char} (hstart : ',' ∉ start)
    (hstart' : ',' ∉ start') (h : ∀ part, readPart? (start ++ part) = readPart? (start' ++ part))
    (cs : List Char) : readings (start ++ cs) = readings (start' ++ cs) := by
  have hpart {part : List Char} (hmem : ',' ∉ part) :
      readings (start ++ part) = readings (start' ++ part) := by
    rw [readings_part (by simp [hstart, hmem]), h part, readings_part (by simp [hstart', hmem])]
  obtain ⟨parts, hcut⟩ := exists_cut ',' cs
  cases hcut with
  | last hmem => exact hpart hmem
  | more hmem _ =>
    rw [← List.append_assoc, ← List.append_assoc, readings_append, readings_append, hpart hmem]

/-- What ends an option string can be exchanged if this changes no text between commas. -/
theorem readings_congr_last {stop stop' : List Char} (hstop : ',' ∉ stop) (hstop' : ',' ∉ stop')
    (h : ∀ part, readPart? (part ++ stop) = readPart? (part ++ stop')) (cs : List Char) :
    readings (cs ++ stop) = readings (cs ++ stop') := by
  obtain ⟨parts, hcut⟩ := exists_cut ',' cs
  induction hcut with
  | @last part hmem =>
    rw [readings_part (by simp [hstop, hmem]), h part, readings_part (by simp [hstop', hmem])]
  | more _ _ ih =>
    rw [List.append_assoc, List.append_assoc, List.cons_append, List.cons_append, readings_append,
      readings_append, ih]

/-- The two sides of the first `=` count without the blanks at their ends. -/
private theorem readPart?_congr {before before' after after' : List Char} (h : '=' ∉ before)
    (h' : '=' ∉ before') (hbefore : trim before = trim before')
    (hafter : trim after = trim after') :
    readPart? (before ++ '=' :: after) = readPart? (before' ++ '=' :: after') := by
  have hsplits := splits_trim h after
  have hsplits' := splits_trim h' after'
  rw [← hbefore, ← hafter] at hsplits'
  rw [readPart?, if_neg (List.ne_nil_of_mem hsplits.mem), readPart?,
    if_neg (List.ne_nil_of_mem hsplits'.mem), readPiece_of_splits hsplits,
    readPiece_of_splits hsplits']

/-! ### Insertions -/

/-- A blank or a comma. -/
def IsFiller (c : Char) : Prop := isBlank c = true ∨ c = ','

/-- **One insertion**: a blank or a comma at an end or beside a comma, or a blank beside the first
`=` of a piece. The piece starts where the option string does, or behind a comma. -/
inductive Inserts : List Char → List Char → Prop
  | front {c : Char} (hc : IsFiller c) (cs : List Char) : Inserts cs (c :: cs)
  | back {c : Char} (hc : IsFiller c) (cs : List Char) : Inserts cs (cs ++ [c])
  | beforeComma {c : Char} (hc : IsFiller c) (left right : List Char) :
      Inserts (left ++ ',' :: right) (left ++ c :: ',' :: right)
  | afterComma {c : Char} (hc : IsFiller c) (left right : List Char) :
      Inserts (left ++ ',' :: right) (left ++ ',' :: c :: right)
  | beforeEquals {c : Char} (hc : isBlank c = true) {left key : List Char}
      (hleft : left = [] ∨ ∃ earlier, left = earlier ++ [',']) (hcomma : ',' ∉ key)
      (hequals : '=' ∉ key) (right : List Char) :
      Inserts (left ++ (key ++ '=' :: right)) (left ++ (key ++ c :: '=' :: right))
  | afterEquals {c : Char} (hc : isBlank c = true) {left key : List Char}
      (hleft : left = [] ∨ ∃ earlier, left = earlier ++ [',']) (hcomma : ',' ∉ key)
      (hequals : '=' ∉ key) (right : List Char) :
      Inserts (left ++ (key ++ '=' :: right)) (left ++ (key ++ '=' :: c :: right))

private theorem allBlank_singleton {c : Char} (hc : isBlank c = true) : AllBlank [c] :=
  List.forall_mem_singleton.mpr hc

private theorem readings_cons {c : Char} (hc : IsFiller c) (cs : List Char) :
    readings (c :: cs) = readings cs := by
  rcases hc with hc | rfl
  · have hblank := allBlank_singleton hc
    refine readings_congr_first (hblank.notMem (by decide)) List.not_mem_nil (fun part => ?_) cs
    rw [readPart?, trim_blank_append hblank]
    rfl
  · exact readings_append [] cs

private theorem readings_concat {c : Char} (hc : IsFiller c) (cs : List Char) :
    readings (cs ++ [c]) = readings cs := by
  rcases hc with hc | rfl
  · have hblank := allBlank_singleton hc
    have hlast :=
      readings_congr_last (hblank.notMem (by decide)) List.not_mem_nil (fun part => ?_) cs
    · rwa [List.append_nil] at hlast
    · rw [readPart?, trim_append_blank hblank, List.append_nil, readPart?]
  · rw [readings_append, readings_nil, List.append_nil]

/-- What stands behind a comma, or at the start, is read by itself. -/
private theorem readings_behind {left : List Char}
    (hleft : left = [] ∨ ∃ earlier, left = earlier ++ [',']) {cs cs' : List Char}
    (h : readings cs = readings cs') :
    readings (left ++ cs) = readings (left ++ cs') := by
  rcases hleft with rfl | ⟨earlier, rfl⟩
  · exact h
  · rw [List.append_assoc, List.append_assoc, List.singleton_append, List.singleton_append,
      readings_append, readings_append, h]

/-- Blanks around the first `=` of a piece are not read. -/
private theorem readings_around_equals {key before after : List Char} (hcomma : ',' ∉ key)
    (hequals : '=' ∉ key) (hbefore : AllBlank before) (hafter : AllBlank after)
    (right : List Char) :
    readings (key ++ (before ++ '=' :: (after ++ right))) = readings (key ++ '=' :: right) := by
  have hcommas : ',' ∉ before ∧ ',' ∉ after :=
    ⟨hbefore.notMem (by decide), hafter.notMem (by decide)⟩
  have hstart : ',' ∉ key ++ before ++ '=' :: after := by simp [hcomma, hcommas]
  have hstart' : ',' ∉ key ++ ['='] := by simp [hcomma]
  have hgap : '=' ∉ before := hbefore.notMem (by decide)
  have hkey : '=' ∉ key ++ before := by simp [hequals, hgap]
  have hfirst := readings_congr_first hstart hstart' (fun part => ?_) right
  · simpa using hfirst
  · have hpart := readPart?_congr hkey hequals (trim_append_blank hbefore key)
      (trim_blank_append hafter part)
    simpa using hpart

/-- **Insertions change no reading.** -/
theorem Inserts.readings_eq {options options' : List Char} (h : Inserts options options') :
    readings options' = readings options := by
  cases h with
  | front hc cs => exact readings_cons hc options
  | back hc cs => exact readings_concat hc options
  | beforeComma hc left right =>
    rw [List.append_cons, readings_append, readings_append, readings_concat hc]
  | afterComma hc left right => rw [readings_append, readings_append, readings_cons hc]
  | beforeEquals hc hleft hcomma hequals right =>
    exact readings_behind hleft (readings_around_equals hcomma hequals (allBlank_singleton hc)
      (List.forall_mem_nil _) right)
  | afterEquals hc hleft hcomma hequals right =>
    exact readings_behind hleft (readings_around_equals hcomma hequals (List.forall_mem_nil _)
      (allBlank_singleton hc) right)

private theorem readings_eq_of_inserts {options options' : List Char}
    (h : Relation.ReflTransGen Inserts options options') :
    readings options' = readings options := by
  induction h with
  | refl => rfl
  | tail _ hinsert ih => exact hinsert.readings_eq.trans ih

/-! ### The main statement -/

/-- **Option strings compose.** Merging one with a comma between two option strings is merging the
first and then, if nothing was wrong with it, the second: the result is the same, and so are the
settings, also those that a bad piece leaves behind. And insertions, however many, change
neither. -/
theorem option_strings_compose (c : Settings) :
    (∀ first later : String, c.merge (first ++ "," ++ later) =
      match c.merge first with
      | (.ok (), c') => c'.merge later
      | (.error e, c') => (.error e, c')) ∧
      ∀ options options' : String,
        Relation.ReflTransGen Inserts options.toList options'.toList →
          c.merge options' = c.merge options := by
  constructor
  · intro first later
    have hcomma : (first ++ "," ++ later).toList = first.toList ++ ',' :: later.toList := by simp
    rw [Settings.merge, hcomma, optionPieces_append, mergePieces_append]
    rfl
  · intro options options' h
    exact merge_congr (readings_eq_of_inserts h) c

/-- An ideographic space before a `=`, a space before a comma and a second comma behind it: the rate
is still assigned, and the key of the other piece is still unknown. -/
theorem option_strings_compose_threeInsertions :
    Relation.ReflTransGen Inserts "monitorSampleRate=5,x=1".toList
        "monitorSampleRate\u3000=5 ,,x=1".toList ∧
      ({} : Settings).merge "monitorSampleRate\u3000=5 ,,x=1" =
        (.error (.unknown "x"), { sampleRate := 5 }) := by
  obtain ⟨hcomma, hinserts⟩ := option_strings_compose {}
  have hkey : ',' ∉ "monitorSampleRate".toList ∧ '=' ∉ "monitorSampleRate".toList := by decide
  have hfirst : Inserts "monitorSampleRate=5,x=1".toList "monitorSampleRate\u3000=5,x=1".toList :=
    .beforeEquals (show isBlank '\u3000' = true by decide) (.inl rfl) hkey.1 hkey.2 "5,x=1".toList
  have hsecond : Inserts "monitorSampleRate\u3000=5,x=1".toList
      "monitorSampleRate\u3000=5 ,x=1".toList :=
    .beforeComma (.inl (show isBlank ' ' = true by decide)) "monitorSampleRate\u3000=5".toList
      "x=1".toList
  have hthird : Inserts "monitorSampleRate\u3000=5 ,x=1".toList
      "monitorSampleRate\u3000=5 ,,x=1".toList :=
    .afterComma (.inr rfl) "monitorSampleRate\u3000=5 ".toList "x=1".toList
  have hpath := ((Relation.ReflTransGen.single hfirst).tail hsecond).tail hthird
  refine ⟨hpath, (hinserts _ _ hpath).trans ((hcomma "monitorSampleRate=5" "x=1").trans ?_)⟩
  decide +kernel

end Contention.Options
