import Contention.Text.Unseen

/-!
# Text quoted for a reader

`quoted` puts a text between double quotes in such a way that its extent and its characters can
be told: quotes and backslashes take a backslash, a few controls have short names, and every
other character that does not show by itself is spelled by its code point.
-/

namespace Contention.Text

/-- How a character stands inside a quoted text. -/
def quotedChar (c : Char) : List Char :=
  match c with
  | '\x00' => ['\\', '0']
  | '\t' => ['\\', 't']
  | '\r' => ['\\', 'r']
  | '\n' => ['\\', 'n']
  | '"' => ['\\', '"']
  | '\\' => ['\\', '\\']
  | c => if isUnseen c then '\\' :: 'u' :: '{' :: Nat.toDigits 16 c.toNat ++ ['}'] else [c]

/-- The text between double quotes. -/
def quoted (s : String) : String :=
  String.ofList ('"' :: s.toList.flatMap quotedChar ++ ['"'])

end Contention.Text
