import Contention.Json.Number

/-!
# Values that nobody asked for

`skip` passes over one value and checks nothing but its grammar, to any depth of nesting: the
brackets that are open are kept in a list. Numbers may be of any size and escaped surrogates
may stand alone.
-/

namespace Contention.Json

/-- A kind of bracket. -/
inductive Bracket where
  | square
  | curly
deriving DecidableEq, Repr

/-- The character that closes a bracket. -/
def Bracket.closing : Bracket → Char
  | .square => ']'
  | .curly => '}'

/-- The text behind a value that is neither an array nor an object. -/
def skipScalar : List Char → Except Fault (List Char)
  | [] => .error .ended
  | '"' :: rest => skipString rest
  | 'n' :: rest => expectWord ['u', 'l', 'l'] rest
  | 't' :: rest => expectWord ['r', 'u', 'e'] rest
  | 'f' :: rest => expectWord ['a', 'l', 's', 'e'] rest
  | c :: rest => if c = '-' ∨ c.isDigit then skipNumber (c :: rest) else .error .grammar

/-- The text behind the colon that follows a key. -/
def expectColon (cs : List Char) : Except Fault (List Char) :=
  match skipBlanks cs with
  | [] => .error .ended
  | ':' :: rest => .ok rest
  | _ :: _ => .error .grammar

/-- The text behind a key and its colon. -/
def skipKey (cs : List Char) : Except Fault (List Char) :=
  match skipBlanks cs with
  | [] => .error .ended
  | '"' :: rest => skipString rest >>= expectColon
  | _ :: _ => .error .grammar

/-- Where the value of the next item starts: behind its key inside curly brackets. -/
def skipToValue : Bracket → List Char → Except Fault (List Char)
  | .square, cs => .ok cs
  | .curly, cs => skipKey cs

/-- Where skipping stands: inside which open brackets, innermost first, whether the innermost one
has just been opened, and before which text. -/
structure Skipping where
  opened : List Bracket
  fresh : Bool
  rest : List Char
deriving DecidableEq, Repr

/-- Enter the array or object at the start of the text, or pass over the scalar there. -/
def enterValue (opened : List Bracket) (cs : List Char) : Except Fault Skipping :=
  match skipBlanks cs with
  | [] => .error .ended
  | '[' :: rest => .ok ⟨.square :: opened, true, rest⟩
  | '{' :: rest => .ok ⟨.curly :: opened, true, rest⟩
  | start => do .ok ⟨opened, false, ← skipScalar start⟩

/-- Go on inside the bracket `b`: leave it, or enter the value of its next item, which stands
behind a comma unless it is the first. -/
def skipStep (b : Bracket) (opened : List Bracket) (fresh : Bool) (cs : List Char) :
    Except Fault Skipping :=
  match skipBlanks cs with
  | [] => .error .ended
  | c :: rest =>
    if c = b.closing then .ok ⟨opened, false, rest⟩
    else if fresh then do enterValue (b :: opened) (← skipToValue b (c :: rest))
    else if c = ',' then do enterValue (b :: opened) (← skipToValue b rest)
    else .error .grammar

/-- The text behind the outermost open bracket. Every step consumes a character, so any text that
is no shorter than the one to be read bounds the number of steps. -/
def leaveAll : (bound : List Char) → Skipping → Except Fault (List Char)
  | _, ⟨[], _, rest⟩ => .ok rest
  | [], ⟨_ :: _, _, _⟩ => .error .ended
  | _ :: bound, ⟨b :: opened, fresh, rest⟩ => do
    leaveAll bound (← skipStep b opened fresh rest)

/-- The text behind one value. -/
def skip (cs : List Char) : Except Fault (List Char) := do
  leaveAll cs (← enterValue [] cs)

end Contention.Json
