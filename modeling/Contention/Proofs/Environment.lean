import Contention.Proofs.Options

/-!
# Variables say what options say

A setting can be given as an option and as an environment variable. The two take different ways:
the value of a variable is trimmed and read, while an option is cut out of its string, trimmed,
split and trimmed again. Still they come to the same (`ofOptions_option`), so what the environment
makes of a setting can be told from an option string with the variable's value behind the setting's
key. Commas are the one difference: an option ends at a comma, and a variable with a comma cannot be
read (`comma_notMem_of_read?`).
-/

namespace Contention.Settings

open Text Options

/-! ### One option -/

private theorem trim_key (s : Setting) : trim s.key.toList = s.key.toList := by
  cases s <;> decide

private theorem notMem_key (s : Setting) : '=' ∉ s.key.toList ∧ ',' ∉ s.key.toList := by
  cases s <;> decide

/-- An option string of one option has one piece. -/
private theorem optionPieces_option (s : Setting) {v : String} (h : ',' ∉ v.toList) :
    optionPieces (s.key ++ "=" ++ v).toList = [trim (s.key.toList ++ '=' :: v.toList)] := by
  have hlist : (s.key ++ "=" ++ v).toList = s.key.toList ++ '=' :: v.toList := by simp
  have hcomma : ',' ∉ s.key.toList ++ '=' :: v.toList := by simp [(notMem_key s).2, h]
  have hne := List.ne_nil_of_mem (splits_trim (notMem_key s).1 v.toList).mem
  rw [optionPieces, hlist, List.splitOn_eq_singleton hcomma, List.map_singleton,
    List.filter_cons_of_pos (by simpa using hne), List.filter_nil]

/-- **One option** is read as its value is. -/
theorem ofOptions_option (s : Setting) {v : String} (h : ',' ∉ v.toList) :
    ofOptions (s.key ++ "=" ++ v) =
      match s.read? (trim v.toList) with
      | some a => .ok (({} : Settings).assign a)
      | none => .error (.invalid s.key (String.ofList (trim v.toList)) s.kind) := by
  have hsplits := splits_trim (notMem_key s).1 v.toList
  rw [trim_key] at hsplits
  rw [ofOptions, merge, optionPieces_option s h, mergePieces, readPiece_of_splits hsplits,
    ofKey?_key, String.ofList_toList]
  dsimp only
  cases s.read? (trim v.toList) <;> rfl

/-! ### Commas -/

/-- **No value with a comma** can be read. -/
theorem comma_notMem_of_read? {s : Setting} {value : List Char} {a : Assignment}
    (h : s.read? value = some a) : ',' ∉ value := by
  have hint {z : Int} (hz : readInt32? value = some z) : ',' ∉ value := by
    intro hmem
    have hcomma := (readInt32?_eq_some_iff.mp hz).1.isDigit_or_sign hmem
    exact absurd hcomma (by decide)
  have hswitch {b : Bool} (hb : readSwitch? value = some b) : ',' ∉ value := by
    intro hmem
    have hcomma : ',' ∈ (String.ofList ((trim value).map Char.toLower)).toList := by
      rw [String.toList_ofList]
      exact List.mem_map.mpr ⟨',', (mem_trim (by decide)).mpr hmem, by decide⟩
    have hwords : ∀ word ∈ onWords ++ offWords, ',' ∉ word.toList := by decide
    rw [readSwitch?] at hb
    split at hb
    · next hword => exact hwords _ (List.mem_append_left _ hword) hcomma
    · split at hb
      · next hword => exact hwords _ (List.mem_append_right _ hword) hcomma
      · cases hb
  cases s with
  | stackTrace =>
    obtain ⟨b, hb, -⟩ := Option.map_eq_some_iff.mp h
    exact hswitch hb
  | sampleRate | stackDepth =>
    obtain ⟨z, hz, -⟩ := Option.map_eq_some_iff.mp h
    exact hint hz

/-! ### Variables as options -/

/-- What an option with the value of a variable makes of the defaults. They stay as they are if the
variable is unset, if its value has a comma in it or if the option cannot be read. -/
def asOption (key : String) : Option String → Settings
  | none => {}
  | some v =>
    if ',' ∈ v.toList then {}
    else
      match ofOptions (key ++ "=" ++ v) with
      | .ok c => c
      | .error _ => {}

/-- **A variable counts** if and only if the option with its value can be read. -/
theorem fromLookup?_eq_some_iff (lookup : String → Option String) (s : Setting) :
    (∃ a, fromLookup? lookup s = some a) ↔
      ∃ v, lookup s.environmentName = some v ∧ ',' ∉ v.toList ∧
        ∃ c, ofOptions (s.key ++ "=" ++ v) = .ok c := by
  constructor
  · rintro ⟨a, ha⟩
    obtain ⟨v, hv, hread⟩ := Option.bind_eq_some_iff.mp ha
    have hcomma : ',' ∉ v.toList :=
      fun hmem => comma_notMem_of_read? hread ((mem_trim (by decide)).mpr hmem)
    refine ⟨v, hv, hcomma, ({} : Settings).assign a, ?_⟩
    rw [ofOptions_option s hcomma, hread]
  · rintro ⟨v, hv, hcomma, c, hc⟩
    rw [ofOptions_option s hcomma] at hc
    split at hc
    · next a hread => exact ⟨a, Option.bind_eq_some_iff.mpr ⟨v, hv, hread⟩⟩
    · cases hc

/-- **A setting of an environment** is what its variable would make it as an option. -/
theorem value_ofLookup_eq_asOption (lookup : String → Option String) (s : Setting) :
    (ofLookup lookup).value s = (asOption s.key (lookup s.environmentName)).value s := by
  rw [value_ofLookup, fromLookup?]
  cases lookup s.environmentName with
  | none => rfl
  | some v =>
    rw [Option.bind_some, asOption]
    split
    · next hcomma =>
      have hnone : s.read? (trim v.toList) = none := by
        refine Option.eq_none_iff_forall_ne_some.mpr fun a ha => ?_
        exact comma_notMem_of_read? ha ((mem_trim (by decide)).mpr hcomma)
      rw [hnone, Option.getD_none]
    · next hcomma =>
      rw [ofOptions_option s hcomma]
      cases hread : s.read? (trim v.toList) with
      | none => rfl
      | some a => exact ((value_assign {} a s).trans (if_pos (Setting.setting_of_read? hread))).symm

/-- **Environments agree with option strings.** Each setting of an environment is what an option
with the value of its variable makes it, and the default if the variable is unset, if the option
cannot be read or if the value has a comma in it. A variable is taken to say something if and only
if the option with its value, which has no comma, can be read. -/
theorem environment_agrees (lookup : String → Option String) :
    (ofLookup lookup).stackTrace =
        (asOption "monitorStackTrace" (lookup "LOCKWATCH_STACK_TRACE")).stackTrace ∧
      (ofLookup lookup).sampleRate =
        (asOption "monitorSampleRate" (lookup "LOCKWATCH_SAMPLE_RATE")).sampleRate ∧
      (ofLookup lookup).stackDepth =
        (asOption "monitorStackTraceDepth" (lookup "LOCKWATCH_STACK_DEPTH")).stackDepth ∧
      ∀ s, (∃ a, fromLookup? lookup s = some a) ↔
        ∃ v, lookup s.environmentName = some v ∧ ',' ∉ v.toList ∧
          ∃ c, ofOptions (s.key ++ "=" ++ v) = .ok c := by
  refine ⟨?_, ?_, ?_, fromLookup?_eq_some_iff lookup⟩
  · exact Assignment.stackTrace.inj (value_ofLookup_eq_asOption lookup .stackTrace)
  · exact Assignment.sampleRate.inj (value_ofLookup_eq_asOption lookup .sampleRate)
  · exact Assignment.stackDepth.inj (value_ofLookup_eq_asOption lookup .stackDepth)

end Contention.Settings
