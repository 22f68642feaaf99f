import Contention.Text.Numeral

/-!
# JSON values and their compact form

A `Value` is what a structure is turned into before it is written. `Value.render` is the
compact form: no blanks, members in the order given, integers in decimal, and in strings only
quotes, backslashes and the characters below U+0020 escaped.
-/

namespace Contention.Json

/-- A value to be written. -/
inductive Value where
  | boolean (value : Bool)
  | integer (value : Int)
  | string (value : String)
  | array (items : List Value)
  | object (members : List (String × Value))

/-! ### Strings -/

/-- How a character stands inside a string. -/
def escaped (c : Char) : List Char :=
  match c with
  | '"' => ['\\', '"']
  | '\\' => ['\\', '\\']
  | '\x08' => ['\\', 'b']
  | '\x0c' => ['\\', 'f']
  | '\n' => ['\\', 'n']
  | '\r' => ['\\', 'r']
  | '\t' => ['\\', 't']
  | c =>
    if c.toNat < 0x20 then
      ['\\', 'u', '0', '0', Nat.digitChar (c.toNat / 16), Nat.digitChar (c.toNat % 16)]
    else [c]

/-- A string between its quotes. -/
def quote (s : String) : List Char := '"' :: s.toList.flatMap escaped ++ ['"']

/-! ### Values -/

/-- Texts with commas between them. -/
def commaSeparated : List (List Char) → List Char
  | [] => []
  | [text] => text
  | text :: rest => text ++ ',' :: commaSeparated rest

mutual

/-- The compact form of a value. -/
def Value.render : Value → List Char
  | .boolean true => ['t', 'r', 'u', 'e']
  | .boolean false => ['f', 'a', 'l', 's', 'e']
  | .integer value => Text.numeral value
  | .string value => quote value
  | .array items => '[' :: commaSeparated (renderItems items) ++ [']']
  | .object members => '{' :: commaSeparated (renderMembers members) ++ ['}']

/-- The compact forms of the items of an array. -/
def Value.renderItems : List Value → List (List Char)
  | [] => []
  | value :: rest => value.render :: renderItems rest

/-- The compact forms of the members of an object. -/
def Value.renderMembers : List (String × Value) → List (List Char)
  | [] => []
  | (key, value) :: rest => (quote key ++ ':' :: value.render) :: renderMembers rest

end

/-- The keys of an object, none for any other value. -/
def Value.keys : Value → List String
  | .object members => members.map Prod.fst
  | _ => []

end Contention.Json
