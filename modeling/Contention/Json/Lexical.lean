import Contention.Json.Fault

/-!
# Lexical elements of JSON

Blanks, literal words and strings. A reader takes the text that is still to be read and gives
back its result together with the text that remains after it.

Strings are read in two ways. `stringBody` decodes a string that is asked for, and insists that
escaped surrogates come in pairs; `skipString` only checks the form of one that nobody asked
for, in which every escape of four hexadecimal digits will do.
-/

namespace Contention.Json

/-- A reader consumes a beginning of the text and gives back what remains. -/
abbrev Reader (α : Type) := List Char → Except Fault (α × List Char)

/-- The blanks between the elements of a text. -/
def isBlank (c : Char) : Bool := c == ' ' || c == '\t' || c == '\n' || c == '\r'

/-- The text from its first character that is no blank. -/
def skipBlanks (cs : List Char) : List Char := cs.dropWhile isBlank

/-- The text after `word`, with which it must start. -/
def expectWord : (word : List Char) → List Char → Except Fault (List Char)
  | [], cs => .ok cs
  | _ :: _, [] => .error .ended
  | w :: word, c :: cs => if w = c then expectWord word cs else .error .grammar

/-! ### Escapes -/

/-- The value of a hexadecimal digit of either case. -/
def hexValue? (c : Char) : Option Nat :=
  if '0' ≤ c ∧ c ≤ '9' then some (c.toNat - 48)
  else if 'a' ≤ c ∧ c ≤ 'f' then some (c.toNat - 87)
  else if 'A' ≤ c ∧ c ≤ 'F' then some (c.toNat - 55)
  else none

/-- The value of four hexadecimal digits. -/
def hexQuad? (a b c d : Char) : Option Nat :=
  match hexValue? a, hexValue? b, hexValue? c, hexValue? d with
  | some w, some x, some y, some z => some (((w * 16 + x) * 16 + y) * 16 + z)
  | _, _, _, _ => none

/-- The fault of a text that stops before four characters: it ends too early if its remainder is
shorter than four bytes, and otherwise some of its characters are no hexadecimal digits. -/
def shortQuad (cs : List Char) : Fault :=
  if (String.ofList cs).utf8ByteSize < 4 then .ended else .grammar

/-- The character that a one-letter escape stands for. -/
def shortEscape? (c : Char) : Option Char :=
  match c with
  | '"' => some '"'
  | '\\' => some '\\'
  | '/' => some '/'
  | 'b' => some '\x08'
  | 'f' => some '\x0c'
  | 'n' => some '\n'
  | 'r' => some '\r'
  | 't' => some '\t'
  | _ => none

/-- The first half of a surrogate pair. -/
def isHighSurrogate (n : Nat) : Bool := 0xd800 ≤ n && n ≤ 0xdbff

/-- The second half of a surrogate pair. -/
def isLowSurrogate (n : Nat) : Bool := 0xdc00 ≤ n && n ≤ 0xdfff

/-- The character of a surrogate pair. -/
def pairedChar (high low : Nat) : Char :=
  Char.ofNat ((high - 0xd800) * 0x400 + (low - 0xdc00) + 0x10000)

/-! ### Strings -/

/-- Decode a string from behind its opening quote; `done` holds its characters so far, the last
one first. -/
def stringBody (done : List Char) : Reader String
  | [] => .error .ended
  | '"' :: rest => .ok (String.ofList done.reverse, rest)
  | ['\\'] => .error .ended
  | '\\' :: 'u' :: a :: b :: c :: d :: rest =>
    match hexQuad? a b c d with
    | none => .error .grammar
    | some n =>
      if isLowSurrogate n then .error .grammar
      else if isHighSurrogate n then
        match rest with
        | [] => .error .ended
        | ['\\'] => .error .ended
        | '\\' :: 'u' :: a' :: b' :: c' :: d' :: rest' =>
          match hexQuad? a' b' c' d' with
          | none => .error .grammar
          | some m =>
            if isLowSurrogate m then stringBody (pairedChar n m :: done) rest'
            else .error .grammar
        | '\\' :: 'u' :: short => .error (shortQuad short)
        | _ => .error .grammar
      else stringBody (Char.ofNat n :: done) rest
  | '\\' :: 'u' :: short => .error (shortQuad short)
  | '\\' :: c :: rest =>
    match shortEscape? c with
    | none => .error .grammar
    | some e => stringBody (e :: done) rest
  | c :: rest => if c.toNat < 0x20 then .error .grammar else stringBody (c :: done) rest

/-- The text behind a string of which only the form matters, from behind its opening quote. -/
def skipString : List Char → Except Fault (List Char)
  | [] => .error .ended
  | '"' :: rest => .ok rest
  | ['\\'] => .error .ended
  | '\\' :: 'u' :: a :: b :: c :: d :: rest =>
    match hexQuad? a b c d with
    | none => .error .grammar
    | some _ => skipString rest
  | '\\' :: 'u' :: short => .error (shortQuad short)
  | '\\' :: c :: rest => if (shortEscape? c).isSome then skipString rest else .error .grammar
  | c :: rest => if c.toNat < 0x20 then .error .grammar else skipString rest

end Contention.Json
