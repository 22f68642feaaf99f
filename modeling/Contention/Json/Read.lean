import Contention.Json.Skip

/-!
# Readers for values that are asked for

Each reader takes one value of a certain kind from the start of a text, blanks before it
allowed. Where another kind of value stands there, `mismatch` reads as much of it as the message
has to tell, so that a value that is itself broken is reported as broken.
-/

namespace Contention.Json

/-! ### Other kinds of value -/

/-- What stands at the start of a text. Of arrays and objects only the opening bracket is
looked at. -/
def found : List Char → Except Fault Found
  | [] => .error .ended
  | '"' :: rest => do .ok (.string (← stringBody [] rest).1)
  | 'n' :: rest => do let _ ← expectWord ['u', 'l', 'l'] rest; .ok .null
  | 't' :: rest => do let _ ← expectWord ['r', 'u', 'e'] rest; .ok (.boolean true)
  | 'f' :: rest => do let _ ← expectWord ['a', 'l', 's', 'e'] rest; .ok (.boolean false)
  | '[' :: _ => .ok .sequence
  | '{' :: _ => .ok .map
  | c :: rest =>
    if c = '-' ∨ c.isDigit then do
      match (← number (c :: rest)).1 with
      | .integer value => .ok (.integer value)
      | .real bits => .ok (.real bits)
    else .error .grammar

/-- The fault of a text that starts with anything but what was asked for. -/
def mismatch (expected : Expected) (cs : List Char) : Fault :=
  match found cs with
  | .error fault => fault
  | .ok value => .mismatch (.type value expected)

/-! ### Single values -/

/-- A string. -/
def string : Reader String := fun cs =>
  match skipBlanks cs with
  | [] => .error .ended
  | '"' :: rest => stringBody [] rest
  | start => .error (mismatch .string start)

/-- One of the words `true` and `false`. -/
def boolean : Reader Bool := fun cs =>
  match skipBlanks cs with
  | [] => .error .ended
  | 't' :: rest => do .ok (true, ← expectWord ['r', 'u', 'e'] rest)
  | 'f' :: rest => do .ok (false, ← expectWord ['a', 'l', 's', 'e'] rest)
  | start => .error (mismatch .boolean start)

/-- An integer between two bounds. -/
def integer (expected : Expected) (low high : Int) : Reader Int := fun cs =>
  match skipBlanks cs with
  | [] => .error .ended
  | c :: rest =>
    if c = '-' ∨ c.isDigit then do
      match ← number (c :: rest) with
      | (.integer value, after) =>
        if low ≤ value ∧ value ≤ high then .ok (value, after)
        else .error (.mismatch (.range value expected))
      | (.real bits, _) => .error (.mismatch (.type (.real bits) expected))
    else .error (mismatch expected (c :: rest))

/-- A signed integer of 32 bits. -/
def int32 : Reader Int := integer .int32 Text.int32Range.1 Text.int32Range.2

/-- A signed integer of 64 bits. -/
def int64 : Reader Int64 := fun cs => do
  let (value, rest) ← integer .int64 (-9223372036854775808) 9223372036854775807 cs
  .ok (Int64.ofInt value, rest)

/-- A natural number of 64 bits, named `expected` in messages. -/
def word (expected : Expected) : Reader UInt64 := fun cs => do
  let (value, rest) ← integer expected 0 18446744073709551615 cs
  .ok (UInt64.ofNat value.toNat, rest)

/-- The word `null`, or a value of another kind. -/
def nullable (item : Reader α) : Reader (Option α) := fun cs =>
  match skipBlanks cs with
  | 'n' :: rest => do .ok (none, ← expectWord ['u', 'l', 'l'] rest)
  | _ => do
    let (value, rest) ← item cs
    .ok (some value, rest)

/-! ### Arrays -/

/-- What comes next in an array: nothing, if the closing bracket follows, or the text of the next
item. All items but the first stand behind a comma. -/
def nextItem (first : Bool) (cs : List Char) : Except Fault (Option (List Char)) :=
  match skipBlanks cs with
  | [] => .error .ended
  | ']' :: _ => .ok none
  | c :: rest =>
    if first then .ok (some (c :: rest))
    else if c = ',' then
      match skipBlanks rest with
      | [] => .error .ended
      | ']' :: _ => .error .grammar
      | start => .ok (some start)
    else .error .grammar

/-- The text behind the closing bracket of an array without further items. -/
def endArray (cs : List Char) : Except Fault (List Char) :=
  match skipBlanks cs with
  | [] => .error .ended
  | ']' :: rest => .ok rest
  | _ => .error .grammar

/-- The items of an array up to its closing bracket; `done` holds those read so far, the last
one first. An item takes up at least a character, so a text that is longer than the one to be
read bounds their number. -/
def items (item : Reader α) :
    (bound : List Char) → (first : Bool) → (done : List α) → Reader (List α)
  | [], _, _, _ => .error .ended
  | _ :: bound, first, done, cs => do
    match ← nextItem first cs with
    | none => .ok (done.reverse, ← endArray cs)
    | some start =>
      let (value, rest) ← item start
      items item bound false (value :: done) rest

/-- An array of values of one kind. -/
def list (item : Reader α) : Reader (List α) := fun cs =>
  match skipBlanks cs with
  | [] => .error .ended
  | '[' :: rest => items item ('[' :: rest) true [] rest
  | start => .error (mismatch .sequence start)

/-! ### Whole texts -/

/-- Read a text that holds one value and nothing but blanks beside it. -/
def whole (item : Reader α) (text : String) : Except Fault α := do
  let (value, rest) ← item text.toList
  match skipBlanks rest with
  | [] => .ok value
  | _ :: _ => .error .grammar

end Contention.Json
