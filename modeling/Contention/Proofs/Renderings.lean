import Contention.Proofs.Json.Objects
import Contention.Scenario.Wire

/-!
# Renderings of scenarios

How scenarios are written, as formats: every structure of a scenario is an object with its slots,
and the lists of a scenario are arrays of such objects. The formats leave open whatever JSON leaves
open, at every level.

Each schema serves the slots of its structure. So a scenario is read back from every faithful text,
its own compact form among them (`faithful_renderings_read`), and a text in which one object at any
level repeats a key or lacks a required one is refused for that (`flawed_renderings_refused`).
-/

namespace Contention

open Json

/-! ### Planted failures -/

namespace FrameFailure

/-- A name, or an object with the name as its only key and `null` as the value of that. -/
def format : Format FrameFailure where
  Renders f text := Format.string.Renders f.name text ∨
    ∃ m : Member, ∃ w : Gap, m.name = f.name ∧ Padded ['n', 'u', 'l', 'l'] m.value ∧
      text = bracketed .curly w [m.text]

private theorem ofName_name (f : FrameFailure) : ofName f.name = .ok f := by
  cases f <;> rfl

private theorem starts_format {f : FrameFailure} {text : List Char} (h : format.Renders f text) :
    Starts text := by
  rcases h with ⟨body, -, rfl⟩ | ⟨m, w, -, -, rfl⟩
  · exact ⟨'"', _, rfl, by decide, by decide, by decide⟩
  · exact ⟨'{', _, rfl, by decide, by decide, by decide⟩

private theorem suits_read : format.Suits read where
  ignores cs := by simp only [read, skipBlanks_skipBlanks]
  opens h := (starts_format h).opens
  opens_flawed := False.elim
  reads := by
    rintro f text (⟨body, hbody, rfl⟩ | ⟨m, w, hname, ⟨w₁, w₂, hvalue⟩, rfl⟩) rest -
    · simp [read, skipBlanks, isBlank, stringBody_toList hbody, ofName_name, bind, Except.bind]
    · have hopen (cs : List Char) : skipBlanks ('{' :: cs) = '{' :: cs := rfl
      have hkey : skipBlanks (w.val ++ row .curly true [m.text] rest) =
          '"' :: m.inner ('}' :: rest) := by
        rw [skipBlanks_gap, row_cons, row_nil]
        exact m.skipBlanks_text ('}' :: rest)
      have hnull : skipBlanks (m.value ++ '}' :: rest) =
          'n' :: 'u' :: 'l' :: 'l' :: (w₂.val ++ '}' :: rest) := by
        rw [hvalue, List.append_assoc, skipBlanks_gap]
        simp [skipBlanks, isBlank]
      have hclose : Schema.endObject (w₂.val ++ '}' :: rest) = .ok rest := by
        rw [Schema.endObject, skipBlanks_gap]
        rfl
      rw [bracketed_append, read, Bracket.opening, hopen]
      simp [hkey, Schema.Serves.stringBody_inner, hname, ofName_name, expectColon_gap, hnull,
        expectWord, hclose, bind, Except.bind]
  refuses := False.elim

end FrameFailure

/-! ### The structures of a scenario -/

namespace ScriptedFrame

/-- A frame without a planted failure may leave that out. -/
def slots : List (Slot ScriptedFrame) :=
  [{ key := "class", Part := String, get := className, format := .string },
   { key := "method", Part := String, get := method, format := .string },
   { key := "signature", Part := String, get := signature, format := .string },
   { key := "fail", Part := Option FrameFailure, get := fail,
     format := .nullable FrameFailure.format, default? := some none }]

/-- How frames are written. -/
def format : Format ScriptedFrame := .object slots

theorem serves : schema.Serves slots where
  fields := by
    refine .cons (Field.serves_of Format.suits_string rfl ?_ ?_)
      (.cons (Field.serves_of Format.suits_string rfl ?_ ?_)
      (.cons (Field.serves_of Format.suits_string rfl ?_ ?_)
      (.cons (Field.serves_of (FrameFailure.suits_read.nullable FrameFailure.starts_format
        False.elim) rfl ?_ ?_) .nil))) <;> simp [slots]
  distinct := by simp [slots]
  blank := by simp [slots, schema]
  ext := by
    intro a b h
    cases a
    cases b
    simpa [slots] using h

end ScriptedFrame

namespace ScriptedThread

/-- All but the name may be left out. -/
def slots : List (Slot ScriptedThread) :=
  [{ key := "name", Part := String, get := name, format := .string },
   { key := "os_thread_id", Part := Option Int64, get := osThreadId, format := .nullable .int64,
     default? := some none },
   { key := "frames", Part := List ScriptedFrame, get := frames,
     format := .array ScriptedFrame.format, default? := some [] },
   { key := "fail_stack_trace", Part := Bool, get := failStackTrace, format := .boolean,
     default? := some false },
   { key := "fail_thread_info", Part := Bool, get := failThreadInfo, format := .boolean,
     default? := some false }]

/-- How threads are written. -/
def format : Format ScriptedThread := .object slots

theorem serves : schema.Serves slots where
  fields := by
    have hid : (Format.nullable .int64).Suits (nullable int64) :=
      Format.suits_int64.nullable (fun h => h ▸ starts_numeral _) False.elim
    refine .cons (Field.serves_of Format.suits_string rfl ?_ ?_)
      (.cons (Field.serves_of hid rfl ?_ ?_)
      (.cons (Field.serves_of ScriptedFrame.serves.suits.list rfl ?_ ?_)
      (.cons (Field.serves_of Format.suits_boolean rfl ?_ ?_)
      (.cons (Field.serves_of Format.suits_boolean rfl ?_ ?_) .nil)))) <;> simp [slots]
  distinct := by simp [slots]
  blank := by simp [slots, schema]
  ext := by
    intro a b h
    cases a
    cases b
    simpa [slots] using h

end ScriptedThread

namespace ScriptedObject

/-- An object that does not fail may leave that out. -/
def slots : List (Slot ScriptedObject) :=
  [{ key := "class", Part := String, get := className, format := .string },
   { key := "fail", Part := Bool, get := fail, format := .boolean, default? := some false }]

/-- How objects are written. -/
def format : Format ScriptedObject := .object slots

theorem serves : schema.Serves slots where
  fields := by
    refine .cons (Field.serves_of Format.suits_string rfl ?_ ?_)
      (.cons (Field.serves_of Format.suits_boolean rfl ?_ ?_) .nil) <;> simp [slots]
  distinct := by simp [slots]
  blank := by simp [slots, schema]
  ext := by
    intro a b h
    cases a
    cases b
    simpa [slots] using h

end ScriptedObject

namespace ScriptedEvent

/-- Both positions are required. -/
def slots : List (Slot ScriptedEvent) :=
  [{ key := "thread", Part := UInt64, get := thread, format := .word },
   { key := "object", Part := UInt64, get := object, format := .word }]

/-- How events are written. -/
def format : Format ScriptedEvent := .object slots

theorem serves : schema.Serves slots where
  fields := by
    refine .cons (Field.serves_of (Format.suits_word .index) rfl ?_ ?_)
      (.cons (Field.serves_of (Format.suits_word .index) rfl ?_ ?_) .nil) <;> simp [slots]
  distinct := by simp [slots]
  blank := by simp [slots]
  ext := by
    intro a b h
    cases a
    cases b
    simpa [slots] using h

end ScriptedEvent

namespace Scenario

/-- Each list may be left out if it is empty. -/
def slots : List (Slot Scenario) :=
  [{ key := "objects", Part := List ScriptedObject, get := objects,
     format := .array ScriptedObject.format, default? := some [] },
   { key := "threads", Part := List ScriptedThread, get := threads,
     format := .array ScriptedThread.format, default? := some [] },
   { key := "events", Part := List ScriptedEvent, get := events,
     format := .array ScriptedEvent.format, default? := some [] }]

/-- How scenarios are written. -/
def format : Format Scenario := .object slots

theorem serves : schema.Serves slots where
  fields := by
    refine .cons (Field.serves_of ScriptedObject.serves.suits.list rfl ?_ ?_)
      (.cons (Field.serves_of ScriptedThread.serves.suits.list rfl ?_ ?_)
      (.cons (Field.serves_of ScriptedEvent.serves.suits.list rfl ?_ ?_) .nil)) <;> simp [slots]
  distinct := by simp [slots]
  blank := by simp [slots, schema]
  ext := by
    intro a b h
    cases a
    cases b
    simpa [slots] using h

end Scenario

/-! ### The compact form -/

private theorem FrameFailure.renders_name (f : FrameFailure) :
    format.nullable.Renders (some f) (Value.string f.name).render :=
  .inl (Format.string_renders_value f.name)

private theorem ScriptedFrame.renders_toValue (f : ScriptedFrame) :
    format.Renders f f.toValue.render := by
  obtain ⟨className, method, signature, fail⟩ := f
  apply Format.object_renders_value
  · cases fail <;> simp
  · cases fail <;> simp [slots]
  · cases fail <;> simp [slots, Format.string_renders_value, FrameFailure.renders_name]
  · cases fail <;> simp [slots]

private theorem ScriptedThread.renders_toValue (t : ScriptedThread) :
    format.Renders t t.toValue.render := by
  have hid (id : Int64) :
      (Format.nullable .int64).Renders (some id) (Value.integer id.toInt).render := rfl
  have hframes := Format.array_renders_value ScriptedFrame.renders_toValue t.frames
  obtain ⟨name, osThreadId, frames, failStackTrace, failThreadInfo⟩ := t
  apply Format.object_renders_value
  · cases osThreadId <;> simp
  · cases osThreadId <;> simp [slots]
  · cases osThreadId <;>
      simp [slots, Format.string_renders_value, Format.boolean_renders_value, hid, hframes]
  · cases osThreadId <;> simp [slots]

private theorem ScriptedObject.renders_toValue (o : ScriptedObject) :
    format.Renders o o.toValue.render := by
  apply Format.object_renders_value
  · simp
  · simp [slots]
  · simp [slots, Format.string_renders_value, Format.boolean_renders_value]
  · simp [slots]

private theorem ScriptedEvent.renders_toValue (e : ScriptedEvent) :
    format.Renders e e.toValue.render := by
  have hword (n : UInt64) : Format.word.Renders n (Value.integer n.toNat).render := rfl
  apply Format.object_renders_value
  · simp
  · simp [slots]
  · simp [slots, hword]
  · simp [slots]

private theorem Scenario.renders_toValue (s : Scenario) : format.Renders s s.toValue.render := by
  have hobjects := Format.array_renders_value ScriptedObject.renders_toValue s.objects
  have hthreads := Format.array_renders_value ScriptedThread.renders_toValue s.threads
  have hevents := Format.array_renders_value ScriptedEvent.renders_toValue s.events
  apply Format.object_renders_value
  · simp
  · simp [slots]
  · simp [slots, hobjects, hthreads, hevents]
  · simp [slots]

/-! ### Reading scenarios -/

/-- **Every faithful rendering of a scenario is read as that scenario.** At every level the members
of an object may stand in any order, with members of other keys and any grammatical values among
them. Whatever has its default may be left out, what is optional and absent may also be `null`, and
blanks may stand between any two elements. The compact form is such a rendering, so reading undoes
writing. -/
theorem faithful_renderings_read (s : Scenario) :
    (∀ text : String, Scenario.format.Shows s text.toList → Scenario.ofText text = .ok s) ∧
      Scenario.format.Shows s s.toText.toList ∧ Scenario.ofText s.toText = .ok s := by
  have hread (text : String) (htext : Scenario.format.Shows s text.toList) :
      Scenario.ofText text = .ok s := Scenario.serves.suits.whole_shows htext
  have hcompact : Scenario.format.Shows s s.toText.toList := by
    rw [Scenario.toText, String.toList_ofList]
    exact ⟨_, s.renders_toValue, padded_self _⟩
  exact ⟨hread, hcompact, hread s.toText hcompact⟩

/-- A number beyond all bounds and half of a surrogate pair. -/
def oddities : List Char :=
  bracketed .square .none [['1', 'e', '9', '9', '9'], ['"', '\\', 'u', 'd', '8', '0', '0', '"']]

private theorem grammatical_oddities : Grammatical oddities := by
  have hdigits : Digits ['9', '9', '9'] := by simp [Digits]
  have hnumber : NumberForm ['1', 'e', '9', '9', '9'] :=
    @NumberForm.parts [] ['1'] [] ['e', '9', '9', '9'] (.inl rfl) (by simp [Digits]) (by simp)
      (.inl rfl) (.inr ⟨'e', [], _, .inl rfl, .inl rfl, hdigits, rfl⟩)
  have hstring : StringForm ['\\', 'u', 'd', '8', '0', '0'] := .quad rfl .nil
  refine .array .none id ?_ fun t _ => padded_self t
  simpa using ⟨Grammatical.number hnumber, Grammatical.string hstring⟩

/-- The members of a thread, the optional id as `null` before the name. -/
def disorderlyMembers : List Member :=
  [.plain "os_thread_id" ['n', 'u', 'l', 'l'], .plain "name" (quote "t")]

private theorem shows_disorderlyMembers :
    ScriptedThread.format.Shows { name := "t" }
      (bracketed .curly .none (disorderlyMembers.map (·.text))) := by
  have hname : Format.string.Shows "t" (quote "t") :=
    ⟨_, Format.string_renders_value "t", padded_self _⟩
  have hid : (Format.nullable .int64).Shows none ['n', 'u', 'l', 'l'] := ⟨_, rfl, padded_self _⟩
  refine ⟨_, ⟨disorderlyMembers, .none, ⟨?_, ?_, ?_⟩, ?_, rfl⟩, padded_self _⟩
  · simp [ScriptedThread.slots, disorderlyMembers, Member.plain]
  · simpa [ScriptedThread.slots, disorderlyMembers, Member.plain] using ⟨hid, hname⟩
  · simp [ScriptedThread.slots, disorderlyMembers, Member.plain]
  · simp [ScriptedThread.slots, disorderlyMembers, Member.plain]

/-- A scenario with this thread, and with a key that nobody knows before it. -/
def disorderlyText : String :=
  "\x7b\"x\": [1e999,\"\\ud800\"],\n\"threads\":[\x7b\"os_thread_id\":null,\"name\":\"t\"\x7d]\x7d"

/-- The text is read as the scenario with the thread alone. -/
theorem faithful_renderings_read_disorderly :
    Scenario.ofText disorderlyText = .ok { threads := [{ name := "t" }] } := by
  let value := bracketed .square .none [bracketed .curly .none (disorderlyMembers.map (·.text))]
  let threads : Member :=
    { Member.plain "threads" value with before := ⟨['\n'], by simp [isBlank]⟩ }
  have hvalue : (Format.array ScriptedThread.format).Shows [{ name := "t" }] value :=
    ⟨_, ⟨_, .none, .cons shows_disorderlyMembers .nil, rfl⟩, padded_self _⟩
  have hpadded : Padded oddities (' ' :: oddities) := ⟨⟨[' '], by simp [isBlank]⟩, .none, rfl⟩
  have hshows : Scenario.format.Shows { threads := [{ name := "t" }] }
      (bracketed .curly .none [(Member.plain "x" (' ' :: oddities)).text, threads.text]) := by
    refine ⟨_, ⟨[.plain "x" (' ' :: oddities), threads], .none, ⟨?_, ?_, ?_⟩, ?_, rfl⟩,
      padded_self _⟩
    · simp [Scenario.slots, threads, Member.plain]
    · simpa [Scenario.slots, threads, Member.plain] using hvalue
    · simpa [Scenario.slots, threads, Member.plain] using ⟨_, grammatical_oddities, hpadded⟩
    · simp [Scenario.slots, threads, Member.plain]
  rw [← String.toList_ofList (l := bracketed _ _ _)] at hshows
  exact (faithful_renderings_read _).1 _ hshows

/-- **Ambiguous and incomplete scenarios are refused.** If in one object at any level a known key
stands a second time, with whatever value, the key is reported as a duplicate. If one lacks required
keys, the first of them in declared order is reported as missing. Neither is ever read. -/
theorem flawed_renderings_refused (flaw : Flaw) (text : String)
    (h : Scenario.format.Spoils flaw text.toList) :
    Scenario.ofText text = .error (.mismatch flaw.cause) ∧
      Scenario.faultMessage (.mismatch flaw.cause) = "invalid scenario: " ++ flaw.phrase := by
  refine ⟨Scenario.serves.suits.whole_spoils h, ?_⟩
  cases flaw <;> rfl

/-- A second class in a frame of a thread, which is no string, and an event without its thread. -/
theorem flawed_renderings_refused_nested :
    Scenario.ofText
          "\x7b\"threads\":[\x7b\"frames\":[\x7b\"class\":\"a.B\",\"class\":1\x7d]\x7d]\x7d" =
        .error (.mismatch (.duplicate "class")) ∧
      Scenario.ofText "\x7b\"events\":[\x7b\"object\":0\x7d]\x7d" =
        .error (.mismatch (.missing "thread")) := by
  constructor
  · have hclass : Format.string.Shows "a.B" (quote "a.B") :=
      ⟨_, Format.string_renders_value "a.B", padded_self _⟩
    have hbefore : Format.Faithful ScriptedFrame.slots ⟨"a.B", "", "", none⟩
        [.plain "class" (quote "a.B")] :=
      ⟨by simp [ScriptedFrame.slots, Member.plain],
        by simpa [ScriptedFrame.slots, Member.plain] using hclass,
        by simp [ScriptedFrame.slots, Member.plain]⟩
    have hframe : ScriptedFrame.format.Spoils (.duplicate "class") _ :=
      ⟨_, @Format.FlawedObject.duplicate _ _ _ _ (.plain "class" ['1']) [] .none _ hbefore
        List.mem_cons_self rfl List.mem_cons_self, padded_self _⟩
    have hthread := Format.Spoils.only_member ScriptedThread.slots
      (List.mem_cons_of_mem _ (List.mem_cons_of_mem _ List.mem_cons_self)) default hframe.only_item
    have hscenario := Format.Spoils.only_member Scenario.slots
      (List.mem_cons_of_mem _ List.mem_cons_self) default hthread.only_item
    rw [← String.toList_ofList (l := bracketed _ _ _)] at hscenario
    exact (flawed_renderings_refused _ _ hscenario).1
  · have hobject : Format.word.Shows 0 ['0'] := ⟨_, rfl, padded_self _⟩
    have hms : Format.Faithful ScriptedEvent.slots ⟨0, 0⟩ [.plain "object" ['0']] :=
      ⟨by simp [ScriptedEvent.slots, Member.plain],
        by simpa [ScriptedEvent.slots, Member.plain] using hobject,
        by simp [ScriptedEvent.slots, Member.plain]⟩
    have hevent : ScriptedEvent.format.Spoils (.missing "thread") _ :=
      ⟨_, @Format.FlawedObject.missing _ _ _ _ .none _ hms rfl, padded_self _⟩
    have hscenario := Format.Spoils.only_member Scenario.slots
      (List.mem_cons_of_mem _ (List.mem_cons_of_mem _ List.mem_cons_self)) default hevent.only_item
    rw [← String.toList_ofList (l := bracketed _ _ _)] at hscenario
    exact (flawed_renderings_refused _ _ hscenario).1

end Contention
