import Mathlib.Data.List.Nodup
import Contention.Proofs.Json.Document
import Contention.Proofs.Json.Format

/-!
# Structures written as objects

The parts of a structure are its **slots**: each has a key, a format and perhaps a default. The
format `Format.object slots` lets the members of an object stand in any order, with members of other
keys among them, and lets a slot that has its default be left out.

A schema **serves** some slots if its fields read them one by one. Reading the members of an object
is a run of `Schema.member`, and `Schema.Holds` is its invariant: the slots whose keys have come up
hold what the text says, and the others are blank. One member keeps it (`Serves.member_holds`), and
so do all members up to any point of the object (`Serves.members_append`). The closing brace, a
second member with the same key and a flawed value are then looked at from there, which gives the
main statement: a schema that serves the slots suits their format (`Serves.suits`).
-/

namespace Contention.Json

/-! ### Objects as a format -/

/-- A part of a structure and how it is written as a member of an object. -/
structure Slot (α : Type) where
  key : String
  Part : Type
  get : α → Part
  format : Format Part
  /-- What the slot holds if it is left out; none if it is required. -/
  default? : Option Part := none

/-- A member of an object whose key spells a name. -/
structure Member extends Entry where
  name : String
  spells : Spells key name.toList

/-- A member without blanks, its key written compactly. -/
def Member.plain (name : String) (value : List Char) : Member where
  before := .none
  key := name.toList.flatMap escaped
  after := .none
  value := value
  name := name
  spells := spells_flatMap_escaped name.toList

namespace Format

variable {α : Type}

/-- The members say no more than what is true of the structure, and nothing of it twice. -/
structure Faithful (slots : List (Slot α)) (a : α) (ms : List Member) : Prop where
  once : ∀ slot ∈ slots, (ms.map Member.name).count slot.key ≤ 1
  known : ∀ m ∈ ms, ∀ slot ∈ slots, m.name = slot.key → slot.format.Shows (slot.get a) m.value
  unknown : ∀ m ∈ ms, (∀ slot ∈ slots, m.name ≠ slot.key) →
    ∃ core, Grammatical core ∧ Padded core m.value

private theorem faithful_nil (slots : List (Slot α)) (a : α) : Faithful slots a [] where
  once := by simp
  known := by simp
  unknown := by simp

/-- The first required slot, in declared order, whose key is not among the names. -/
def firstAbsent (slots : List (Slot α)) (names : List String) : Option (Slot α) :=
  slots.find? fun slot => slot.default?.isNone && decide (slot.key ∉ names)

/-- The objects with a flaw. Up to the flaw they are faithful to some structure. What stands behind
it does not matter, nor does the value of a second member with the same key. -/
inductive FlawedObject (slots : List (Slot α)) : Flaw → List Char → Prop
  | duplicate {a : α} {before : List Member} {m : Member} {after : List (List Char)} {w : Gap}
      {slot : Slot α} (hbefore : Faithful slots a before) (hslot : slot ∈ slots)
      (hname : m.name = slot.key) (hfirst : slot.key ∈ before.map Member.name) :
      FlawedObject slots (.duplicate slot.key)
        (bracketed .curly w (before.map (·.text) ++ m.text :: after))
  | missing {a : α} {ms : List Member} {w : Gap} {slot : Slot α} (hms : Faithful slots a ms)
      (hslot : firstAbsent slots (ms.map Member.name) = some slot) :
      FlawedObject slots (.missing slot.key) (bracketed .curly w (ms.map (·.text)))
  | inside {a : α} {before : List Member} {m : Member} {after : List (List Char)} {w : Gap}
      {slot : Slot α} {flaw : Flaw} (hbefore : Faithful slots a before) (hslot : slot ∈ slots)
      (hname : m.name = slot.key) (hnew : slot.key ∉ before.map Member.name)
      (hflaw : slot.format.Spoils flaw m.value) :
      FlawedObject slots flaw (bracketed .curly w (before.map (·.text) ++ m.text :: after))

/-- **A structure written as an object.** What is left out has its default. -/
def object (slots : List (Slot α)) : Format α where
  Renders a text := ∃ ms w, Faithful slots a ms ∧
    (∀ slot ∈ slots, slot.key ∉ ms.map Member.name → slot.default? = some (slot.get a)) ∧
    text = bracketed .curly w (ms.map (·.text))
  Flawed := FlawedObject slots

/-- A flaw of an item is one of an array with this item alone. -/
theorem Spoils.only_item {f : Format α} {flaw : Flaw} {text : List Char} (h : f.Spoils flaw text) :
    f.array.Spoils flaw (bracketed .square .none [text]) :=
  ⟨_, ⟨[], [], text, [], .none, .nil, h, rfl⟩, padded_self _⟩

/-- A flaw of a member is one of an object with this member alone. -/
theorem Spoils.only_member (slots : List (Slot α)) {slot : Slot α} (hslot : slot ∈ slots) (a : α)
    {flaw : Flaw} {text : List Char} (h : slot.format.Spoils flaw text) :
    (object slots).Spoils flaw (bracketed .curly .none [(Member.plain slot.key text).text]) := by
  have hnew : slot.key ∉ ([] : List Member).map Member.name := by simp
  exact ⟨_, .inside (faithful_nil slots a) hslot rfl hnew h, padded_self _⟩

/-! ### The compact form -/

theorem string_renders_value (s : String) : string.Renders s (Value.string s).render :=
  ⟨s.toList.flatMap escaped, spells_flatMap_escaped s.toList, rfl⟩

theorem boolean_renders_value (b : Bool) : boolean.Renders b (Value.boolean b).render := by
  cases b <;> rfl

/-- The compact form of an array stands for a list if those of its items stand for theirs. -/
theorem array_renders_value {f : Format α} {toValue : α → Value}
    (h : ∀ a, f.Renders a (toValue a).render) (as : List α) :
    f.array.Renders as (Value.array (as.map toValue)).render := by
  refine ⟨(as.map toValue).map Value.render, .none, ?_, ?_⟩
  · rw [List.map_map, List.forall₂_map_right_iff, List.forall₂_same]
    exact fun a _ => ⟨_, h a, padded_self _⟩
  · simp [Value.render, Value.renderItems_eq, bracketed, Gap.none, Bracket.opening, Bracket.closing]

/-- The compact form of an object stands for a structure if its members are all true of it and
only defaults are left out. -/
theorem object_renders_value {slots : List (Slot α)} {a : α} {members : List (String × Value)}
    (hnodup : (members.map Prod.fst).Nodup)
    (hslot : ∀ m ∈ members, ∃ slot ∈ slots, m.1 = slot.key)
    (hrenders : ∀ m ∈ members, ∀ slot ∈ slots, m.1 = slot.key →
      slot.format.Renders (slot.get a) m.2.render)
    (hleft : ∀ slot ∈ slots, slot.key ∉ members.map Prod.fst →
      slot.default? = some (slot.get a)) :
    (object slots).Renders a (Value.object members).render := by
  let plain (m : String × Value) : Member := .plain m.1 m.2.render
  have hnames : (members.map plain).map Member.name = members.map Prod.fst := by
    rw [List.map_map]
    rfl
  refine ⟨members.map plain, .none, ⟨?_, ?_, ?_⟩, ?_, ?_⟩
  · intro slot _
    rw [hnames]
    exact List.nodup_iff_count_le_one.mp hnodup slot.key
  · intro _ hmem' slot hmem hkey
    obtain ⟨m, hm, rfl⟩ := List.mem_map.mp hmem'
    exact ⟨_, hrenders m hm slot hmem hkey, padded_self _⟩
  · intro _ hmem' hnone
    obtain ⟨m, hm, rfl⟩ := List.mem_map.mp hmem'
    obtain ⟨slot, hmem, hkey⟩ := hslot m hm
    exact absurd hkey (hnone slot hmem)
  · rwa [hnames]
  · have htext (m : String × Value) : (plain m).text = memberText (m.1, m.2.render) := by
      simp [plain, Member.plain, Entry.text, memberText, quote, Gap.none]
    simp [Value.render, Value.renderMembers_eq, bracketed, Gap.none, Bracket.opening,
      Bracket.closing, Function.comp_def, htext]

end Format

open Format (Faithful FlawedObject firstAbsent)

/-! ### Schemas that serve slots -/

variable {α : Type}

/-- The field reads what the slot describes and leaves the other slots as they are. -/
structure Field.Serves (slots : List (Slot α)) (field : Field α) (slot : Slot α) : Prop where
  key : field.key = slot.key
  required : field.required = slot.default?.isNone
  reads : ∀ a {v text rest}, slot.format.Shows v text → Ends rest →
    ∃ a', ∃ w : Gap, field.read a (text ++ rest) = .ok (a', w.val ++ rest) ∧ slot.get a' = v ∧
      ∀ other ∈ slots, other.key ≠ slot.key → other.get a' = other.get a
  refuses : ∀ a {flaw text}, slot.format.Spoils flaw text →
    ∀ rest, field.read a (text ++ rest) = .error (.mismatch flaw.cause)

/-- A field whose reader suits the slot's format serves it if values are entered where they are
looked up and nowhere else. -/
theorem Field.serves_of {slots : List (Slot α)} {key : String} {β : Type} {get : α → β}
    {format : Format β} {default? : Option β} {item : Reader β} {set : α → β → α}
    {required : Bool} (h : format.Suits item) (hrequired : required = default?.isNone)
    (hget : ∀ a v, get (set a v) = v)
    (hother : ∀ a v, ∀ other ∈ slots, other.key ≠ key → other.get (set a v) = other.get a) :
    (Field.of key required item set).Serves slots ⟨key, β, get, format, default?⟩ where
  key := rfl
  required := hrequired
  reads := by
    intro a v text rest htext hrest
    obtain ⟨w, hread⟩ := h.reads_shows htext hrest
    refine ⟨set a v, w, ?_, hget a v, hother a v⟩
    simp only [Field.of, hread, bind, Except.bind]
  refuses := by
    intro a flaw text htext rest
    simp only [Field.of, h.refuses_spoils htext rest, bind, Except.bind]

namespace Schema

/-- The fields of the schema read the slots, in the same order, and slots that are not read are
blank. -/
structure Serves (s : Schema α) (slots : List (Slot α)) : Prop where
  fields : List.Forall₂ (Field.Serves slots) s.fields slots
  distinct : (slots.map Slot.key).Nodup
  blank : ∀ slot ∈ slots, ∀ v, slot.default? = some v → slot.get s.blank = v
  ext : ∀ a b, (∀ slot ∈ slots, slot.get a = slot.get b) → a = b

/-- The field found for the key of a slot serves this slot. -/
private theorem find?_of_mem {all slots : List (Slot α)} {fields : List (Field α)}
    (h : List.Forall₂ (Field.Serves all) fields slots) (hdistinct : (slots.map Slot.key).Nodup)
    {slot : Slot α} (hslot : slot ∈ slots) :
    ∃ field, fields.find? (fun f => f.key == slot.key) = some field ∧ field.Serves all slot := by
  induction h with
  | nil => cases hslot
  | @cons field first fields slots hserves _ ih =>
    rw [List.map_cons, List.nodup_cons] at hdistinct
    rcases List.mem_cons.mp hslot with rfl | hmem
    · exact ⟨field, List.find?_cons_of_pos (by simp [hserves.key]), hserves⟩
    · have hne : first.key ≠ slot.key := fun heq =>
        hdistinct.1 (heq ▸ List.mem_map_of_mem hmem)
      rw [List.find?_cons_of_neg (by simp [hserves.key, hne])]
      exact ih hdistinct.2 hmem

private theorem find?_of_ne {all slots : List (Slot α)} {fields : List (Field α)}
    (h : List.Forall₂ (Field.Serves all) fields slots) {name : String}
    (hname : ∀ slot ∈ slots, name ≠ slot.key) :
    fields.find? (fun f => f.key == name) = none := by
  induction h with
  | nil => rfl
  | @cons field first fields slots hserves _ ih =>
    have hne := hname first List.mem_cons_self
    rw [List.find?_cons_of_neg (by simp [hserves.key, hne.symm])]
    exact ih fun slot hslot => hname slot (List.mem_cons_of_mem _ hslot)

/-- The first required field that has not been seen belongs to the first absent slot. -/
private theorem key_find?_required {all slots : List (Slot α)} {fields : List (Field α)}
    (h : List.Forall₂ (Field.Serves all) fields slots) {seen names : List String}
    (hseen : ∀ slot ∈ slots, slot.key ∈ seen ↔ slot.key ∈ names) :
    (fields.find? fun f => f.required && decide (f.key ∉ seen)).map Field.key =
      (firstAbsent slots names).map Slot.key := by
  induction h with
  | nil => rfl
  | @cons field first fields slots hserves _ ih =>
    have hrest := ih fun slot hslot => hseen slot (List.mem_cons_of_mem _ hslot)
    have hfirst := hseen first List.mem_cons_self
    rw [firstAbsent] at hrest ⊢
    rw [List.find?_cons, List.find?_cons, hserves.required, hserves.key]
    simp only [hfirst]
    split
    · simp [hserves.key]
    · exact hrest

/-- What has been read after some members: the slots whose keys are among theirs hold what the
structure `a` has there, and the others are blank. -/
structure Holds (s : Schema α) (slots : List (Slot α)) (a : α) (done : List Member)
    (seen : List String) (b : α) : Prop where
  seen : ∀ slot ∈ slots, slot.key ∈ seen ↔ slot.key ∈ done.map Member.name
  read : ∀ slot ∈ slots, slot.key ∈ done.map Member.name → slot.get b = slot.get a
  unread : ∀ slot ∈ slots, slot.key ∉ done.map Member.name → slot.get b = slot.get s.blank

theorem holds_nil (s : Schema α) (slots : List (Slot α)) (a : α) :
    s.Holds slots a [] [] s.blank where
  seen := by simp
  read := by simp
  unread := by simp

namespace Serves

variable {s : Schema α} {slots : List (Slot α)} {a b : α} {done : List Member} {seen : List String}

theorem stringBody_inner (m : Member) (rest : List Char) :
    stringBody [] (m.inner rest) = .ok (m.name, m.after.val ++ ':' :: (m.value ++ rest)) := by
  rw [Entry.inner, stringBody_toList m.spells]

/-- A member with a key of no slot is passed over. -/
private theorem member_unknown (h : s.Serves slots) {m : Member}
    (hname : ∀ slot ∈ slots, m.name ≠ slot.key) {core rest : List Char} (hcore : Grammatical core)
    (hpadded : Padded core m.value) (hrest : Ends rest) (seen : List String) (b : α) :
    ∃ w : Gap, s.member seen b (m.inner rest) = .ok ((seen, b), w.val ++ rest) := by
  obtain ⟨w, hskip⟩ := skip_grammatical hcore hpadded hrest
  refine ⟨w, ?_⟩
  have hfind := find?_of_ne h.fields hname
  simp only [member, stringBody_inner, bind, Except.bind, hfind, expectColon_gap, hskip]

/-- **One member keeps the invariant.** -/
theorem member_holds (h : s.Serves slots) (hholds : s.Holds slots a done seen b) {m : Member}
    {before : List Member} (hfaithful : Faithful slots a (done ++ m :: before)) {rest : List Char}
    (hrest : Ends rest) :
    ∃ seen' b', ∃ w : Gap, s.member seen b (m.inner rest) = .ok ((seen', b'), w.val ++ rest) ∧
      s.Holds slots a (done ++ [m]) seen' b' := by
  have hm : m ∈ done ++ m :: before := List.mem_append_right _ List.mem_cons_self
  by_cases hname : ∃ slot ∈ slots, m.name = slot.key
  · obtain ⟨slot, hslot, hkey⟩ := hname
    -- the key has not come up before, since it does so but once
    have hnew : slot.key ∉ done.map Member.name := by
      have honce := hfaithful.once slot hslot
      rw [List.map_append, List.count_append, List.map_cons, hkey, List.count_cons_self] at honce
      exact List.count_eq_zero.mp (by omega)
    obtain ⟨field, hfind, hserves⟩ := find?_of_mem h.fields h.distinct hslot
    obtain ⟨b', w, hread, hget, hother⟩ :=
      hserves.reads b (hfaithful.known m hm slot hslot hkey) hrest
    refine ⟨slot.key :: seen, b', w, ?_, ?_, ?_, ?_⟩
    · have hunseen : slot.key ∉ seen := mt (hholds.seen slot hslot).mp hnew
      simp only [member, stringBody_inner, bind, Except.bind, hkey, hfind, hunseen, if_false,
        expectColon_gap, hread]
    · intro other hmem
      rw [List.mem_cons, hholds.seen other hmem, List.map_append, List.mem_append]
      simp [hkey, or_comm]
    · intro other hmem hin
      by_cases hsame : other.key = slot.key
      · obtain rfl : other = slot := List.inj_on_of_nodup_map h.distinct hmem hslot hsame
        exact hget
      · rw [hother other hmem hsame]
        refine hholds.read other hmem ?_
        simpa [hkey, hsame] using hin
    · intro other hmem hout
      have hout' : other.key ∉ done.map Member.name ∧ other.key ≠ slot.key := by
        simpa [hkey] using hout
      rw [hother other hmem hout'.2]
      exact hholds.unread other hmem hout'.1
  · have hnone : ∀ slot ∈ slots, m.name ≠ slot.key := by simpa using hname
    obtain ⟨core, hcore, hpadded⟩ := hfaithful.unknown m hm hnone
    obtain ⟨w, hmember⟩ := h.member_unknown hnone hcore hpadded hrest seen b
    -- the name is no slot's, so it makes no difference to any of them
    have hsame : ∀ slot ∈ slots,
        slot.key ∈ (done ++ [m]).map Member.name ↔ slot.key ∈ done.map Member.name := by
      intro slot hslot
      simp [(hnone slot hslot).symm]
    refine ⟨seen, b, w, hmember, ?_, ?_, ?_⟩
    · intro slot hslot
      rw [hsame slot hslot, hholds.seen slot hslot]
    · intro slot hslot hin
      exact hholds.read slot hslot ((hsame slot hslot).mp hin)
    · intro slot hslot hout
      exact hholds.unread slot hslot (mt (hsame slot hslot).mpr hout)

/-- The next member of an object stands behind blanks, and behind a comma unless it is the first. -/
private theorem nextKey_row (e : Entry) (first : Bool) (w : Gap) (rest : List Char) :
    nextKey first (w.val ++ (lead first ++ (e.text ++ rest))) = .ok (some (e.inner rest)) := by
  have hquote := e.skipBlanks_text rest
  cases first with
  | true => simp [nextKey, skipBlanks_gap, lead, hquote]
  | false =>
    have hcomma (cs : List Char) : skipBlanks (',' :: cs) = ',' :: cs := rfl
    simp [nextKey, skipBlanks_gap, lead, hcomma, hquote]

/-- **A row of members keeps the invariant**, whatever follows it. -/
theorem members_append (h : s.Serves slots) {before : List Member}
    (hfaithful : Faithful slots a (done ++ before)) (hholds : s.Holds slots a done seen b)
    (more : List (List Char)) (first : Bool) (bound : List Char)
    (hbound : (before.map (·.text) ++ more).length < bound.length) (w : Gap) (rest : List Char) :
    ∃ bound' first' seen' b', ∃ w' : Gap, more.length < bound'.length ∧
      s.Holds slots a (done ++ before) seen' b' ∧
      s.members bound first seen b (w.val ++ row .curly first (before.map (·.text) ++ more) rest) =
        s.members bound' first' seen' b' (w'.val ++ row .curly first' more rest) := by
  induction before generalizing done seen b first bound w with
  | nil => exact ⟨bound, first, seen, b, w, hbound, by simpa using hholds, rfl⟩
  | cons m before ih =>
    obtain ⟨c, bound, rfl⟩ := List.exists_cons_of_length_pos (Nat.zero_lt_of_lt hbound)
    obtain ⟨seen₁, b₁, w₁, hmember, hholds₁⟩ := h.member_holds hholds hfaithful
      (ends_row .curly (before.map (·.text) ++ more) rest)
    have happend : done ++ m :: before = done ++ [m] ++ before := by simp
    rw [happend] at hfaithful ⊢
    obtain ⟨bound', first', seen', b', w', hroom, hholds', hrest⟩ :=
      ih hfaithful hholds₁ false bound (Nat.lt_of_succ_lt_succ hbound) w₁
    refine ⟨bound', first', seen', b', w', hroom, hholds', ?_⟩
    rw [List.map_cons, List.cons_append, row_cons, members, nextKey_row]
    simp only [bind, Except.bind, hmember]
    exact hrest

/-- At the closing brace the first absent slot is reported, if there is one. -/
private theorem members_nil (h : s.Serves slots) (hholds : s.Holds slots a done seen b)
    (first : Bool) (c : Char) (bound : List Char) (w : Gap) (rest : List Char) :
    s.members (c :: bound) first seen b (w.val ++ row .curly first [] rest) =
      match firstAbsent slots (done.map Member.name) with
      | none => .ok (b, rest)
      | some slot => .error (.mismatch (.missing slot.key)) := by
  have hclosing : skipBlanks (w.val ++ row .curly first [] rest) = '}' :: rest := by
    rw [skipBlanks_gap, row_nil]
    rfl
  have hkey := key_find?_required h.fields hholds.seen
  simp only [members, nextKey, endObject, complete, hclosing, bind, Except.bind]
  revert hkey
  cases firstAbsent slots (done.map Member.name) <;>
    cases s.fields.find? (fun f => f.required && decide (f.key ∉ seen)) <;> simp

/-- A structure is determined by what has been read if only defaults are left out. -/
private theorem eq_of_holds (h : s.Serves slots) (hholds : s.Holds slots a done seen b)
    (hleft : ∀ slot ∈ slots, slot.key ∉ done.map Member.name → slot.default? = some (slot.get a)) :
    b = a := by
  refine h.ext b a fun slot hslot => ?_
  by_cases hin : slot.key ∈ done.map Member.name
  · exact hholds.read slot hslot hin
  · rw [hholds.unread slot hslot hin]
    exact h.blank slot hslot _ (hleft slot hslot hin)

/-- The members of an object up to any point are read as what they say. -/
private theorem read_append (h : s.Serves slots) {before : List Member}
    (hbefore : Faithful slots a before) (more : List (List Char)) (w : Gap) (rest : List Char) :
    ∃ c bound first seen b, ∃ w' : Gap, s.Holds slots a before seen b ∧
      s.read (bracketed .curly w (before.map (·.text) ++ more) ++ rest) =
        s.members (c :: bound) first seen b (w'.val ++ row .curly first more rest) := by
  have hroom := length_lt_row .curly w (before.map (·.text) ++ more) rest
  have hfaithful : Faithful slots a ([] ++ before) := hbefore
  obtain ⟨bound, first, seen, b, w', hbound, hholds, hmembers⟩ :=
    h.members_append hfaithful (s.holds_nil slots a) more true _ hroom w rest
  obtain ⟨c, bound, rfl⟩ := List.exists_cons_of_length_pos (Nat.zero_lt_of_lt hbound)
  refine ⟨c, bound, first, seen, b, w', hholds, ?_⟩
  rw [bracketed_append]
  exact hmembers

/-- A flawed object is refused for its flaw. -/
theorem refuses (h : s.Serves slots) {flaw : Flaw} {text : List Char}
    (htext : FlawedObject slots flaw text) (rest : List Char) :
    s.read (text ++ rest) = .error (.mismatch flaw.cause) := by
  cases htext with
  | @duplicate a before m after w slot hbefore hslot hname hfirst =>
    obtain ⟨c, bound, first, seen, b, w', hholds, hread⟩ :=
      h.read_append hbefore (m.text :: after) w rest
    obtain ⟨field, hfind, -⟩ := find?_of_mem h.fields h.distinct hslot
    have hseen : slot.key ∈ seen := (hholds.seen slot hslot).mpr hfirst
    rw [hread, row_cons, members, nextKey_row]
    simp only [member, stringBody_inner, bind, Except.bind, hname, hfind, hseen, if_true]
    rfl
  | @missing a ms w slot hms hslot =>
    obtain ⟨c, bound, first, seen, b, w', hholds, hread⟩ := h.read_append hms [] w rest
    rw [List.append_nil] at hread
    rw [hread, h.members_nil hholds, hslot]
    rfl
  | @inside a before m after w slot _ hbefore hslot hname hnew hflaw =>
    obtain ⟨c, bound, first, seen, b, w', hholds, hread⟩ :=
      h.read_append hbefore (m.text :: after) w rest
    obtain ⟨field, hfind, hserves⟩ := find?_of_mem h.fields h.distinct hslot
    have hunseen : slot.key ∉ seen := mt (hholds.seen slot hslot).mp hnew
    rw [hread, row_cons, members, nextKey_row]
    simp only [member, stringBody_inner, bind, Except.bind, hname, hfind, hunseen, if_false,
      expectColon_gap, hserves.refuses b hflaw]

/-- **Schemas suit the format of the slots that they serve.** -/
theorem suits (h : s.Serves slots) : (Format.object slots).Suits s.read where
  ignores cs := by simp only [read, skipBlanks_skipBlanks]
  opens := by
    rintro a text ⟨ms, w, -, -, rfl⟩
    exact ⟨'{', _, rfl, by decide, by decide⟩
  opens_flawed := by
    rintro flaw text (_ | _ | _) <;> exact ⟨'{', _, rfl, by decide, by decide⟩
  reads := by
    rintro a text ⟨ms, w, hms, hleft, rfl⟩ rest -
    obtain ⟨c, bound, first, seen, b, w', hholds, hread⟩ := h.read_append hms [] w rest
    have hnone : firstAbsent slots (ms.map Member.name) = none := by
      -- a slot without a default is never left out
      refine List.find?_eq_none.mpr fun slot hslot habsent => ?_
      simp only [Bool.and_eq_true, Option.isNone_iff_eq_none, decide_eq_true_eq] at habsent
      rw [hleft slot hslot habsent.2] at habsent
      exact Option.some_ne_none _ habsent.1
    rw [List.append_nil] at hread
    rw [hread, h.members_nil hholds, hnone, h.eq_of_holds hholds hleft]
  refuses := h.refuses

end Serves

end Schema

end Contention.Json
