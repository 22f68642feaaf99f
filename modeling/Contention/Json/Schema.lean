import Contention.Json.Read

/-!
# Structures

A `Schema` describes how a structure is written: its fields in their declared order, each with
a key, a reader for its value, and whether it is required. `Schema.read` accepts two forms.

* An **object** may hold the fields in any order and other keys beside them, whose values are
  passed over. A field's key that stands there a second time is refused as soon as it is read; a
  required field that does not occur is refused at the closing brace, the first one declared
  being reported.
* An **array** holds the values of the fields in declared order. It may end early before fields
  that are not required.

Fields that do not occur keep the value that they have in the schema's `blank` structure.
-/

namespace Contention.Json

/-- A field of a structure. -/
structure Field (α : Type) where
  key : String
  required : Bool
  /-- Read the field's value into a structure. -/
  read : α → Reader α

/-- A field whose value is read by `item` and entered by `set`. -/
def Field.of (key : String) (required : Bool) (item : Reader β) (set : α → β → α) : Field α where
  key := key
  required := required
  read a cs := do
    let (value, rest) ← item cs
    .ok (set a value, rest)

/-- How a structure is written. -/
structure Schema (α : Type) where
  title : String
  blank : α
  fields : List (Field α)

namespace Schema

variable {α : Type}

/-! ### Objects -/

/-- What comes next in an object: nothing, if the closing brace follows, or the text behind the
opening quote of the next key. All keys but the first stand behind a comma. -/
def nextKey (first : Bool) (cs : List Char) : Except Fault (Option (List Char)) :=
  match skipBlanks cs with
  | [] => .error .ended
  | '}' :: _ => .ok none
  | c :: rest =>
    if first then
      if c = '"' then .ok (some rest) else .error .grammar
    else if c = ',' then
      match skipBlanks rest with
      | [] => .error .ended
      | '"' :: start => .ok (some start)
      | _ => .error .grammar
    else .error .grammar

/-- The text behind the closing brace of an object without further members. -/
def endObject (cs : List Char) : Except Fault (List Char) :=
  match skipBlanks cs with
  | [] => .error .ended
  | '}' :: rest => .ok rest
  | _ => .error .grammar

/-- Read one member of an object from behind the opening quote of its key. `seen` holds the keys
of the fields read so far. -/
def member (s : Schema α) (seen : List String) (a : α) (cs : List Char) :
    Except Fault ((List String × α) × List Char) := do
  let (key, rest) ← stringBody [] cs
  match s.fields.find? fun f => f.key == key with
  | none =>
    let rest ← expectColon rest
    .ok ((seen, a), ← skip rest)
  | some field =>
    if key ∈ seen then .error (.mismatch (.duplicate key))
    else do
      let rest ← expectColon rest
      let (a, rest) ← field.read a rest
      .ok ((key :: seen, a), rest)

/-- Refuse a structure of which a required field has not been seen. -/
def complete (s : Schema α) (seen : List String) (a : α) : Except Fault α :=
  match s.fields.find? fun f => f.required && decide (f.key ∉ seen) with
  | some field => .error (.mismatch (.missing field.key))
  | none => .ok a

/-- Read the members of an object up to its closing brace. A member takes up at least a character,
so a text that is longer than the one to be read bounds their number. -/
def members (s : Schema α) :
    (bound : List Char) → (first : Bool) → (seen : List String) → α → Reader α
  | [], _, _, _, _ => .error .ended
  | _ :: bound, first, seen, a, cs => do
    match ← nextKey first cs with
    | none => .ok (← s.complete seen a, ← endObject cs)
    | some start =>
      let ((seen, a), rest) ← s.member seen a start
      members s bound false seen a rest

/-! ### Arrays -/

/-- Read the given fields, which are the last ones of the schema, from an array of which `present`
items have been read. -/
def elements (s : Schema α) : List (Field α) → (present : Nat) → α → Reader α
  | [], _, a, cs => do .ok (a, ← endArray cs)
  | field :: fields, present, a, cs => do
    match ← nextItem (present == 0) cs with
    | none =>
      if field.required then .error (.mismatch (.length present s.title s.fields.length))
      else s.elements fields present a cs
    | some start =>
      let (a, rest) ← field.read a start
      s.elements fields (present + 1) a rest

/-! ### Both forms -/

/-- Read a structure. -/
def read (s : Schema α) : Reader α := fun cs =>
  match skipBlanks cs with
  | [] => .error .ended
  | '[' :: rest => s.elements s.fields 0 s.blank rest
  | '{' :: rest => s.members ('{' :: rest) true [] s.blank rest
  | start => .error (mismatch (.struct s.title) start)

end Schema

end Contention.Json
