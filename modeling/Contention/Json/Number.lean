import Contention.Json.Lexical

/-!
# Numbers in JSON

Reading a number has two halves. `scanNumber` finds its extent and its parts by the grammar;
`Literal.value` says which number the parts denote. Digits without fraction and exponent denote
an integer if they fit into 64 bits, with a sign for the negative ones; everything else, `-0`
included, is a binary floating point number. The latter are made by one multiplication or
division of the leading digits, as many as fit into 64 bits, by a power of ten. A number beyond
the greatest floating point number is refused as ungrammatical.
-/

namespace Contention.Json

/-- A number's parts as they stand in the text. -/
structure Literal where
  negative : Bool
  whole : List Char
  fraction : List Char := []
  /-- Whether the exponent is negative, and its digits. -/
  exponent : Option (Bool × List Char) := none
deriving DecidableEq, Repr

/-- The number that a literal denotes. -/
inductive Number where
  | integer (value : Int)
  | real (bits : UInt64)
deriving DecidableEq, Repr

/-! ### The extent of a number -/

/-- A non-empty row of digits. -/
def someDigits (cs : List Char) : Except Fault (List Char × List Char) :=
  match cs.span Char.isDigit with
  | ([], []) => .error .ended
  | ([], _ :: _) => .error .grammar
  | found => .ok found

/-- The digits before the point: a single `0`, or a row that does not start with `0`. -/
def scanWhole (cs : List Char) : Except Fault (List Char × List Char) := do
  let (ds, rest) ← someDigits cs
  match ds with
  | '0' :: _ :: _ => .error .grammar
  | _ => .ok (ds, rest)

/-- The digits behind the point, if there is one. -/
def scanFraction : List Char → Except Fault (List Char × List Char)
  | '.' :: cs => someDigits cs
  | cs => .ok ([], cs)

/-- The sign of an exponent; `true` for a negative one. -/
def scanSign : List Char → Bool × List Char
  | '-' :: cs => (true, cs)
  | '+' :: cs => (false, cs)
  | cs => (false, cs)

/-- The exponent, if there is one. -/
def scanExponent (cs : List Char) : Except Fault (Option (Bool × List Char) × List Char) :=
  match cs with
  | [] => .ok (none, [])
  | c :: rest =>
    if c = 'e' ∨ c = 'E' then do
      let (negative, rest) := scanSign rest
      let (ds, rest) ← someDigits rest
      .ok (some (negative, ds), rest)
    else .ok (none, cs)

/-- The parts of a number at the start of the text. -/
def scanNumber (cs : List Char) : Except Fault (Literal × List Char) := do
  let (negative, rest) := match cs with
    | '-' :: rest => (true, rest)
    | _ => (false, cs)
  let (whole, rest) ← scanWhole rest
  let (fraction, rest) ← scanFraction rest
  let (exponent, rest) ← scanExponent rest
  .ok ({ negative, whole, fraction, exponent }, rest)

/-! ### The number denoted -/

/-- Append digits to `n` as long as the result fits into 64 bits; the second part of the answer
counts the digits left over. -/
def appendDigits (n : Nat) : List Char → Nat × Nat
  | [] => (n, 0)
  | d :: ds =>
    let n' := 10 * n + (d.toNat - 48)
    if n' < UInt64.size then appendDigits n' ds else (n, ds.length + 1)

/-- The power `10 ^ n` as a floating point number. -/
def powerOfTen (n : Nat) : Float := Float.ofScientific 1 false n

/-- Divide by `10 ^ n`, in steps that each divide by a finite power. -/
def scaleDown (f : Float) (n : Nat) : Float :=
  if n ≤ 308 then f / powerOfTen n
  else if f == 0 then f
  else scaleDown (f / powerOfTen 308) (n - 308)
termination_by n

/-- The floating point number `significand * 10 ^ exponent`, unless it is too large. -/
def scaled? (significand : Nat) (exponent : Int) : Option Float :=
  let f := (UInt64.ofNat significand).toFloat
  if exponent < 0 then some (scaleDown f (-exponent).toNat)
  else if exponent ≤ 308 then
    let g := f * powerOfTen exponent.toNat
    if g.isInf then none else some g
  else if significand = 0 then some f
  else none

/-- The greatest exponent that is computed with. -/
def greatestExponent : Nat := 2147483647

/-- The floating point number of a literal with the given leading digits, `shift` being the power
of ten that they are to be multiplied with apart from the literal's own exponent. -/
def Literal.real? (l : Literal) (significand : Nat) (shift : Int) : Option Float :=
  match l.exponent with
  | none => scaled? significand shift
  | some (down, ds) =>
    let n := Nat.ofDigitChars 10 ds 0
    if n ≤ greatestExponent then scaled? significand (if down then shift - n else shift + n)
    else if significand = 0 ∨ down then some 0
    else none

/-- The greatest number whose negative is a signed integer of 64 bits. -/
def greatestNegated : Nat := 9223372036854775808

/-- The number that a literal denotes. -/
def Literal.value (l : Literal) : Except Fault Number :=
  let (n, excess) := appendDigits 0 l.whole
  let real (f : Float) : Number := .real (if l.negative then -f else f).toBits
  if excess = 0 ∧ l.fraction = [] ∧ l.exponent = none then
    if l.negative then
      if 1 ≤ n ∧ n ≤ greatestNegated then .ok (.integer (-(n : Int)))
      else .ok (real (UInt64.ofNat n).toFloat)
    else .ok (.integer n)
  else
    let (m, left) := appendDigits n l.fraction
    match l.real? m ((excess : Int) - (l.fraction.length - left : Nat)) with
    | some f => .ok (real f)
    | none => .error .grammar

/-- A number at the start of the text. -/
def number : Reader Number := fun cs => do
  let (l, rest) ← scanNumber cs
  .ok (← l.value, rest)

/-- The text behind a number of which only the form matters. A number that is cut off by the end
of the text is ungrammatical here. -/
def skipNumber (cs : List Char) : Except Fault (List Char) :=
  match scanNumber cs with
  | .ok (_, rest) => .ok rest
  | .error _ => .error .grammar

end Contention.Json
