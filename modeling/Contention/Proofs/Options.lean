import Mathlib.Data.List.Forall2
import Contention.Proofs.Settings
import Contention.Proofs.Text

/-!
# What an option string means

An option string is cut at its commas; what stands between them, trimmed, are its `Pieces`. A piece
`Assigns` a value to a setting, or it is `Faulty` in one of three ways. Both are told from the text
alone: where the first `=` is, whose key stands before it and what the text behind it `Says`. A
piece is always one or the other (`assigns_or_faulty`), and reading it finds out which
(`readPiece_eq_ok_iff`, `readPiece_eq_error_iff`).

`option_string_meaning` says what becomes of settings: up to the first faulty piece the last piece
with its key decides about each of them, and the faulty piece decides about the error.
-/

namespace Contention.Options

open Text

variable {lower : List Char → List Char}

/-! ### Pieces -/

/-- What stands between the commas, without the blanks at its ends. What is all blank is no
piece. -/
def Pieces (options : List Char) (pieces : List (List Char)) : Prop :=
  ∃ parts cores, Cut ',' options parts ∧ List.Forall₂ Trims parts cores ∧
    pieces = cores.filter (· ≠ [])

private theorem pieces_iff {options : List Char} {pieces : List (List Char)} :
    Pieces options pieces ↔ pieces = optionPieces options := by
  have hfilter (parts : List (List Char)) : (parts.map trim).filter (· ≠ []) =
      (parts.map trim).filter fun piece => !piece.isEmpty :=
    List.filter_congr fun piece _ => by cases piece <;> rfl
  constructor
  · rintro ⟨parts, cores, hcut, hcores, rfl⟩
    have hmap : List.Forall₂ Eq (parts.map trim) cores :=
      List.forall₂_map_left_iff.mpr (hcores.imp fun _ _ => Trims.trim_eq)
    rw [List.forall₂_eq_eq_eq] at hmap
    subst hmap
    rw [optionPieces, hcut.splitOn_eq, hfilter]
  · rintro rfl
    refine ⟨_, _, cut_iff.mpr rfl, List.forall₂_map_right_iff.mpr ?_, (hfilter _).symm⟩
    exact List.forall₂_same.mpr fun part _ => trims_trim part

/-- The text before the first `=` and the text behind it, each without the blanks at its ends. -/
def Splits (piece key value : List Char) : Prop :=
  ∃ before after, piece = before ++ '=' :: after ∧ '=' ∉ before ∧ Trims before key ∧
    Trims after value

private theorem pieceKey_append {before : List Char} (h : '=' ∉ before) (after : List Char) :
    pieceKey (before ++ '=' :: after) = String.ofList (trim before) := by
  have hbefore : ∀ c ∈ before, (c != '=') = true := fun c hc =>
    bne_iff_ne.mpr fun heq => h (heq ▸ hc)
  rw [pieceKey, List.takeWhile_append_of_pos hbefore, List.takeWhile_cons_of_neg (by decide),
    List.append_nil]

private theorem pieceValue_append {before : List Char} (h : '=' ∉ before) (after : List Char) :
    pieceValue (before ++ '=' :: after) = trim after := by
  have hbefore : ∀ c ∈ before, (c != '=') = true := fun c hc =>
    bne_iff_ne.mpr fun heq => h (heq ▸ hc)
  rw [pieceValue, List.dropWhile_append_of_pos hbefore, List.dropWhile_cons_of_neg (by decide),
    List.tail_cons]

private theorem exists_splits {piece : List Char} (h : '=' ∈ piece) :
    ∃ key value, Splits piece key value := by
  obtain ⟨before, after, rfl, hbefore⟩ := List.eq_append_cons_of_mem h
  exact ⟨_, _, before, after, rfl, hbefore, trims_trim before, trims_trim after⟩

/-- Blanks at the ends of a piece are blanks at the ends of its two sides. -/
theorem splits_trim {before : List Char} (h : '=' ∉ before) (after : List Char) :
    Splits (trim (before ++ '=' :: after)) (trim before) (trim after) := by
  refine ⟨trimLeft before, trimRight after, trim_append_cons (by decide) before after,
    fun hmem => h ((List.dropWhile_subset _) hmem), ?_, ?_⟩
  · exact trims_iff.mpr (trim_trimLeft before)
  · exact trims_iff.mpr (trim_trimRight after)

theorem Splits.mem {piece key value : List Char} (h : Splits piece key value) : '=' ∈ piece := by
  obtain ⟨before, after, rfl, -⟩ := h
  simp

private theorem Splits.isTight {piece key value : List Char} (h : Splits piece key value) :
    IsTight value := by
  obtain ⟨_, _, -, -, -, hvalue⟩ := h
  exact hvalue.1

/-- A piece has one key and one value. -/
private theorem Splits.parts_eq {piece key value : List Char} (h : Splits piece key value) :
    pieceKey piece = String.ofList key ∧ pieceValue piece = value := by
  obtain ⟨before, after, rfl, hbefore, hkey, hvalue⟩ := h
  rw [pieceKey_append hbefore, pieceValue_append hbefore, hkey.trim_eq, hvalue.trim_eq]
  exact ⟨rfl, rfl⟩

/-- The piece has the key of the setting. -/
def HasKey (piece : List Char) (s : Setting) : Prop := ∃ value, Splits piece s.key.toList value

private theorem HasKey.unique {piece : List Char} {s s' : Setting} (h : HasKey piece s)
    (h' : HasKey piece s') : s = s' := by
  obtain ⟨_, hs⟩ := h
  obtain ⟨_, hs'⟩ := h'
  have hkeys := hs.parts_eq.1.symm.trans hs'.parts_eq.1
  rw [String.ofList_toList, String.ofList_toList] at hkeys
  exact Setting.key_injective hkeys

/-! ### Values -/

/-- **What the text of a value says.** The switch takes eight words, in upper or lower case; the two
numbers are numerals of integers of 32 bits. -/
inductive Says (lower : List Char → List Char) : List Char → Assignment → Prop
  | on {value : List Char} (h : String.ofList (lower value) ∈ ["true", "yes", "on", "1"]) :
      Says lower value (.stackTrace true)
  | off {value : List Char} (h : String.ofList (lower value) ∈ ["false", "no", "off", "0"]) :
      Says lower value (.stackTrace false)
  | rate {value : List Char} {z : Int} (h : DenotesInt32 value z) :
      Says lower value (.sampleRate z)
  | depth {value : List Char} {z : Int} (h : DenotesInt32 value z) :
      Says lower value (.stackDepth z)

private theorem mem_lower_iff (hlower : IsLowerCasing lower) (words : List String)
    (hwords : ∀ word ∈ words, ∀ c ∈ word.toList, IsAscii c ∧ c ≠ 'k') (value : List Char) :
    String.ofList (lower value) ∈ words ↔ String.ofList (value.map Char.toLower) ∈ words := by
  have hword {word : String} (h : word ∈ words) := hlower.ofList_eq_iff (hwords word h) value
  constructor
  · intro h
    rwa [(hword h).mp rfl]
  · intro h
    rwa [(hword h).mpr rfl]

private theorem readSwitch?_eq_some_iff (hlower : IsLowerCasing lower) {value : List Char}
    (htight : IsTight value) {b : Bool} :
    readSwitch? value = some b ↔ Says lower value (.stackTrace b) := by
  have hon := mem_lower_iff hlower onWords (by simp [onWords, IsAscii]) value
  have hoff := mem_lower_iff hlower offWords (by simp [offWords, IsAscii]) value
  have hdisjoint : ∀ word ∈ offWords, word ∉ onWords := by decide
  rw [readSwitch?, htight.trim_eq]
  constructor
  · intro h
    split at h
    · next hword => exact Option.some.inj h ▸ .on (hon.mpr hword)
    · split at h
      · next hword => exact Option.some.inj h ▸ .off (hoff.mpr hword)
      · cases h
  · intro h
    cases h with
    | on hword => exact if_pos (hon.mp hword)
    | off hword =>
      have hword' := hoff.mp hword
      exact (if_neg (hdisjoint _ hword')).trans (if_pos hword')

/-- **Reading a value** finds what it says about the setting. -/
theorem read?_eq_some_iff (hlower : IsLowerCasing lower) {value : List Char}
    (htight : IsTight value) {a : Assignment} :
    a.setting.read? value = some a ↔ Says lower value a := by
  cases a with
  | stackTrace b =>
    have hmap : Setting.stackTrace.read? value = some (.stackTrace b) ↔
        readSwitch? value = some b := by simp [Setting.read?]
    exact hmap.trans (readSwitch?_eq_some_iff hlower htight)
  | sampleRate z =>
    have hmap : Setting.sampleRate.read? value = some (.sampleRate z) ↔
        readInt32? value = some z := by simp [Setting.read?]
    exact (hmap.trans readInt32?_eq_some_iff).trans ⟨.rate, fun | .rate h => h⟩
  | stackDepth z =>
    have hmap : Setting.stackDepth.read? value = some (.stackDepth z) ↔
        readInt32? value = some z := by simp [Setting.read?]
    exact (hmap.trans readInt32?_eq_some_iff).trans ⟨.depth, fun | .depth h => h⟩

/-! ### Good and bad pieces -/

/-- **A good piece**: the key of a setting and a value that says something about it. -/
def Assigns (lower : List Char → List Char) (piece : List Char) (a : Assignment) : Prop :=
  ∃ value, Splits piece a.setting.key.toList value ∧ Says lower value a

/-- **A bad piece**, and what is wrong with it. -/
inductive Faulty (lower : List Char → List Char) : List Char → OptionError → Prop
  | malformed {piece : List Char} (h : '=' ∉ piece) :
      Faulty lower piece (.malformed (String.ofList piece))
  | unknown {piece key value : List Char} (h : Splits piece key value)
      (hkey : ∀ s : Setting, s.key.toList ≠ key) : Faulty lower piece (.unknown (String.ofList key))
  | invalid {piece value : List Char} {s : Setting} (h : Splits piece s.key.toList value)
      (hvalue : ∀ a, a.setting = s → ¬Says lower value a) :
      Faulty lower piece (.invalid s.key (String.ofList value) s.kind)

private theorem Assigns.hasKey {piece : List Char} {a : Assignment} (h : Assigns lower piece a) :
    HasKey piece a.setting := by
  obtain ⟨value, hsplits, -⟩ := h
  exact ⟨value, hsplits⟩

theorem readPiece_of_splits {piece key value : List Char} (h : Splits piece key value) :
    readPiece piece =
      match Setting.ofKey? (String.ofList key) with
      | none => .error (.unknown (String.ofList key))
      | some s =>
        match s.read? value with
        | none => .error (.invalid (String.ofList key) (String.ofList value) s.kind)
        | some a => .ok a := by
  obtain ⟨hkey, hvalue⟩ := h.parts_eq
  have hread := Contention.readPiece_eq piece
  rw [if_pos h.mem, hkey, hvalue] at hread
  exact hread

theorem ofKey?_key (s : Setting) : Setting.ofKey? (String.ofList s.key.toList) = some s := by
  rw [String.ofList_toList]
  exact Setting.ofKey?_eq_some_iff.mpr rfl

theorem Assigns.readPiece_eq (hlower : IsLowerCasing lower) {piece : List Char} {a : Assignment}
    (h : Assigns lower piece a) : readPiece piece = .ok a := by
  obtain ⟨value, hsplits, hsays⟩ := h
  have hread := (read?_eq_some_iff hlower hsplits.isTight).mpr hsays
  rw [readPiece_of_splits hsplits, ofKey?_key]
  dsimp only
  rw [hread]

theorem Faulty.readPiece_eq (hlower : IsLowerCasing lower) {piece : List Char} {e : OptionError}
    (h : Faulty lower piece e) : readPiece piece = .error e := by
  cases h with
  | malformed hmem => rw [Contention.readPiece_eq, if_neg hmem]
  | @unknown key value hsplits hkey =>
    have hnone : Setting.ofKey? (String.ofList key) = none := by
      refine Option.eq_none_iff_forall_ne_some.mpr fun s hs => hkey s ?_
      rw [Setting.ofKey?_eq_some_iff.mp hs, String.toList_ofList]
    rw [readPiece_of_splits hsplits, hnone]
  | @invalid value s hsplits hvalue =>
    have hnone : s.read? value = none := by
      refine Option.eq_none_iff_forall_ne_some.mpr fun a ha => ?_
      obtain rfl := Setting.setting_of_read? ha
      exact hvalue a rfl ((read?_eq_some_iff hlower hsplits.isTight).mp ha)
    rw [readPiece_of_splits hsplits, ofKey?_key]
    dsimp only
    rw [hnone, String.ofList_toList]

/-- **A piece is good or bad.** -/
theorem assigns_or_faulty (lower : List Char → List Char) (piece : List Char) :
    (∃ a, Assigns lower piece a) ∨ ∃ e, Faulty lower piece e := by
  by_cases hmem : '=' ∈ piece
  · obtain ⟨key, value, hsplits⟩ := exists_splits hmem
    by_cases hkey : ∃ s : Setting, s.key.toList = key
    · obtain ⟨s, rfl⟩ := hkey
      by_cases hvalue : ∃ a, a.setting = s ∧ Says lower value a
      · obtain ⟨a, rfl, hsays⟩ := hvalue
        exact .inl ⟨a, value, hsplits, hsays⟩
      · exact .inr ⟨_, .invalid hsplits fun a hs hsays => hvalue ⟨a, hs, hsays⟩⟩
    · exact .inr ⟨_, .unknown hsplits fun s hs => hkey ⟨s, hs⟩⟩
  · exact .inr ⟨_, .malformed hmem⟩

theorem readPiece_eq_ok_iff (hlower : IsLowerCasing lower) {piece : List Char} {a : Assignment} :
    readPiece piece = .ok a ↔ Assigns lower piece a := by
  refine ⟨fun h => ?_, Assigns.readPiece_eq hlower⟩
  rcases assigns_or_faulty lower piece with ⟨a', hgood⟩ | ⟨e, hbad⟩
  · rw [hgood.readPiece_eq hlower] at h
    exact Except.ok.inj h ▸ hgood
  · rw [hbad.readPiece_eq hlower] at h
    cases h

theorem readPiece_eq_error_iff (hlower : IsLowerCasing lower) {piece : List Char}
    {e : OptionError} : readPiece piece = .error e ↔ Faulty lower piece e := by
  refine ⟨fun h => ?_, Faulty.readPiece_eq hlower⟩
  rcases assigns_or_faulty lower piece with ⟨a, hgood⟩ | ⟨e', hbad⟩
  · rw [hgood.readPiece_eq hlower] at h
    cases h
  · rw [hbad.readPiece_eq hlower] at h
    exact Except.error.inj h ▸ hbad

/-! ### From piece to piece -/

/-- **What good pieces make of settings.** The last piece with its key decides about a setting; a
setting without one is left alone. -/
def Leads (lower : List Char → List Char) (pieces : List (List Char)) (c c' : Settings) : Prop :=
  ∀ s : Setting,
    ((∀ piece ∈ pieces, ¬HasKey piece s) → c'.value s = c.value s) ∧
      ∀ earlier piece later, pieces = earlier ++ piece :: later → HasKey piece s →
        (∀ p ∈ later, ¬HasKey p s) → Assigns lower piece (c'.value s)

private theorem leads_of_readable (hlower : IsLowerCasing lower) {pieces : List (List Char)}
    {assignments : List Assignment} (h : Settings.Readable pieces assignments) (c : Settings) :
    Leads lower pieces c (assignments.foldl Settings.assign c) := by
  induction h generalizing c with
  | nil =>
    intro s
    exact ⟨fun _ => rfl, fun earlier _ _ hnil => by simp at hnil⟩
  | @cons first a rest assignments hfirst _ ih =>
    intro s
    have hgood := (readPiece_eq_ok_iff hlower).mp hfirst
    obtain ⟨hothers, hlast⟩ := ih (c.assign a) s
    refine ⟨fun hnone => ?_, fun earlier piece later hpieces hkey hlater => ?_⟩
    · have hother : a.setting ≠ s := by
        rintro rfl
        exact hnone first List.mem_cons_self hgood.hasKey
      rw [List.foldl_cons, hothers fun p hp => hnone p (List.mem_cons_of_mem _ hp),
        Settings.value_assign, if_neg hother]
    · cases earlier with
      | nil =>
        -- the first piece is the last one with its key
        obtain ⟨rfl, rfl⟩ := List.cons.inj hpieces
        obtain rfl := hgood.hasKey.unique hkey
        rw [List.foldl_cons, hothers hlater, Settings.value_assign, if_pos rfl]
        exact hgood
      | cons _ earlier =>
        obtain ⟨-, hrest⟩ := List.cons.inj hpieces
        exact hlast earlier piece later hrest hkey hlater

/-- Pieces can be read if they are good. -/
private theorem exists_readable_iff (hlower : IsLowerCasing lower) {pieces : List (List Char)} :
    (∃ assignments, Settings.Readable pieces assignments) ↔
      ∀ piece ∈ pieces, ∃ a, Assigns lower piece a := by
  induction pieces with
  | nil => exact ⟨fun _ => nofun, fun _ => ⟨[], .nil⟩⟩
  | cons first rest ih =>
    constructor
    · rintro ⟨_, hread⟩ piece hpiece
      cases hread with
      | cons hfirst hrest =>
        rcases List.mem_cons.mp hpiece with rfl | hpiece
        · exact ⟨_, (readPiece_eq_ok_iff hlower).mp hfirst⟩
        · exact ih.mp ⟨_, hrest⟩ piece hpiece
    · intro hgood
      obtain ⟨a, ha⟩ := hgood first List.mem_cons_self
      obtain ⟨assignments, hrest⟩ := ih.mpr fun p hp => hgood p (List.mem_cons_of_mem _ hp)
      exact ⟨a :: assignments, .cons (ha.readPiece_eq hlower) hrest⟩

/-- **One row of pieces after the other.** The second is only looked at if nothing was wrong with
the first. -/
theorem mergePieces_append (c : Settings) (first later : List (List Char)) :
    c.mergePieces (first ++ later) =
      match c.mergePieces first with
      | (.ok (), c') => c'.mergePieces later
      | (.error e, c') => (.error e, c') := by
  induction first generalizing c with
  | nil => rfl
  | cons piece rest ih =>
    rw [List.cons_append, Settings.mergePieces, Settings.mergePieces]
    cases readPiece piece with
    | error e => rfl
    | ok a => exact ih (c.assign a)

/-- **The meaning of an option string.** It has certain pieces, which are told from its text alone.
Merging it succeeds if and only if all of them are good, and then each setting is what the last
piece with its key assigns, or what it was before if there is none. Otherwise the error is what is
wrong with the first bad piece, each setting is what the last piece with its key before the bad one
assigns, and what comes behind has no effect. What lower case is need not be known exactly. -/
theorem option_string_meaning (lower : List Char → List Char) (hlower : IsLowerCasing lower)
    (c : Settings) (options : String) :
    ∃ pieces, (∀ ps, Pieces options.toList ps ↔ ps = pieces) ∧
      ((c.merge options).1 = .ok () ↔ ∀ piece ∈ pieces, ∃ a, Assigns lower piece a) ∧
      ((c.merge options).1 = .ok () → Leads lower pieces c (c.merge options).2) ∧
      ∀ past bad rest, pieces = past ++ bad :: rest →
        (∀ piece ∈ past, ∃ a, Assigns lower piece a) → (∀ a, ¬Assigns lower bad a) →
        ∃ e, (∀ e', Faulty lower bad e' ↔ e' = e) ∧ (c.merge options).1 = .error e ∧
          Leads lower past c (c.merge options).2 := by
  refine ⟨_, fun _ => pieces_iff, ⟨fun hok => ?_, fun hgood => ?_⟩, fun hok => ?_, ?_⟩
  · exact (exists_readable_iff hlower).mp (Settings.readable_of_mergePieces hok)
  · obtain ⟨assignments, hread⟩ := (exists_readable_iff hlower).mpr hgood
    rw [Settings.merge, Settings.mergePieces_of_readable hread]
  · obtain ⟨assignments, hread⟩ := Settings.readable_of_mergePieces hok
    rw [Settings.merge, Settings.mergePieces_of_readable hread]
    exact leads_of_readable hlower hread c
  · intro past bad rest hpieces hpast hbad
    obtain ⟨assignments, hread⟩ := (exists_readable_iff hlower).mpr hpast
    obtain ⟨e, hfaulty⟩ := (assigns_or_faulty lower bad).resolve_left fun ⟨a, ha⟩ => hbad a ha
    have herror := hfaulty.readPiece_eq hlower
    have hmerge : c.merge options = (.error e, assignments.foldl Settings.assign c) := by
      rw [Settings.merge, hpieces, mergePieces_append, Settings.mergePieces_of_readable hread]
      dsimp only
      rw [Settings.mergePieces, herror]
    refine ⟨e, fun e' => ⟨fun he' => ?_, fun he' => he' ▸ hfaulty⟩, by rw [hmerge], ?_⟩
    · exact Except.error.inj ((he'.readPiece_eq hlower).symm.trans herror)
    · rw [hmerge]
      exact leads_of_readable hlower hread c

/-- Lower case with the one exception. -/
def lowerKelvin (cs : List Char) : List Char :=
  cs.map fun c => if c = '\u212a' then 'k' else c.toLower

private theorem isLowerCasing_lowerKelvin : IsLowerCasing lowerKelvin where
  ascii cs hcs := by
    refine List.map_congr_left fun c hc => if_neg ?_
    rintro rfl
    exact absurd (hcs _ hc) (by decide)
  other cs := by
    rintro ⟨c, hc, hnot⟩
    refine ⟨_, List.mem_map_of_mem hc, ?_⟩
    split
    · exact .inr rfl
    · exact .inl (by rwa [toLower_of_not_isAscii hnot])

/-- The fourth of five pieces has a `=` in its value. The rate that was assigned twice before it is
the later one, the depth is as it was, and the fifth piece does not matter. -/
theorem option_string_meaning_fourthPieceBad :
    let c : Settings := { stackDepth := 3 }
    let options := "monitorSampleRate=5,\u2003monitorStackTrace = oFF ,," ++
      "monitorSampleRate=+0012\t,monitorStackTraceDepth=4=4,monitorStackTraceDepth=1"
    IsLowerCasing lowerKelvin ∧
      (c.merge options).1 = .error (.invalid "monitorStackTraceDepth" "4=4" .integer) ∧
      (c.merge options).2.sampleRate = 12 ∧ (c.merge options).2.stackDepth = 3 := by
  intro c options
  have hlower := isLowerCasing_lowerKelvin
  obtain ⟨pieces, hpieces, -, -, hbad⟩ := option_string_meaning lowerKelvin hlower c options
  let first := "monitorSampleRate=5".toList
  let second := "monitorStackTrace = oFF".toList
  let third := "monitorSampleRate=+0012".toList
  let bad := "monitorStackTraceDepth=4=4".toList
  have hsplit : pieces = [first, second, third] ++ bad :: ["monitorStackTraceDepth=1".toList] :=
    ((hpieces _).mp (pieces_iff.mpr (by decide +kernel))).symm
  have hfirst : Assigns lowerKelvin first (.sampleRate 5) :=
    (readPiece_eq_ok_iff hlower).mp (by decide +kernel)
  have hsecond : Assigns lowerKelvin second (.stackTrace false) :=
    (readPiece_eq_ok_iff hlower).mp (by decide +kernel)
  have hthird : Assigns lowerKelvin third (.sampleRate 12) :=
    (readPiece_eq_ok_iff hlower).mp (by decide +kernel)
  have hfaulty : Faulty lowerKelvin bad (.invalid "monitorStackTraceDepth" "4=4" .integer) :=
    (readPiece_eq_error_iff hlower).mp (by decide +kernel)
  obtain ⟨e, he, herror, hleads⟩ := hbad _ _ _ hsplit
    (by simpa using ⟨⟨_, hfirst⟩, ⟨_, hsecond⟩, ⟨_, hthird⟩⟩)
    fun a ha => nomatch (ha.readPiece_eq hlower).symm.trans (hfaulty.readPiece_eq hlower)
  obtain rfl := (he _).mp hfaulty
  refine ⟨hlower, herror, ?_, ?_⟩
  · have hlast := (hleads .sampleRate).2 [first, second] third [] rfl hthird.hasKey nofun
    have hread := (hlast.readPiece_eq hlower).symm.trans (hthird.readPiece_eq hlower)
    exact Assignment.sampleRate.inj (Except.ok.inj hread)
  · have hkeys : ∀ piece ∈ [first, second, third], ¬HasKey piece .stackDepth := by
      intro piece hpiece hkey
      simp only [List.mem_cons, List.not_mem_nil, or_false] at hpiece
      rcases hpiece with rfl | rfl | rfl
      · exact absurd (hfirst.hasKey.unique hkey) (by decide)
      · exact absurd (hsecond.hasKey.unique hkey) (by decide)
      · exact absurd (hthird.hasKey.unique hkey) (by decide)
    exact Assignment.stackDepth.inj ((hleads .stackDepth).1 hkeys)

end Contention.Options
