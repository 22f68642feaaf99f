import Contention.Text.Numeral

/-!
# Shortest decimals

A finite binary floating point number of 64 bits stands for every real number that rounds to
it. `shortest` finds the decimal with the fewest digits among these, and of several the one
nearest to the number itself: it tries the grids of multiples of `10 ^ k` from the coarsest to
the finest and stops at the first grid on which one of the number's two neighbours still rounds
to the number. All of it is exact arithmetic on natural numbers.

How such a decimal is laid out is a `Layout`.
-/

namespace Contention

/-- The number `coefficient * 10 ^ exponent`. -/
structure Decimal where
  coefficient : Nat
  exponent : Int
deriving DecidableEq, Repr

namespace Decimal

/-- The sign bit of a binary number of 64 bits. -/
def isNegative (bits : UInt64) : Bool := bits.toNat >>> 63 = 1

/-- The reals that round to a number, and the number itself, over one denominator. -/
structure Span where
  low : Nat
  middle : Nat
  high : Nat
  denominator : Nat
  /-- Whether the two ends round to the number as well. -/
  closed : Bool

/-- The reals that round to the absolute value of a finite number. -/
def Span.ofBits (bits : UInt64) : Span :=
  let field := (bits.toNat >>> 52) % 2048
  let rest := bits.toNat % (1 <<< 52)
  let mantissa := if field = 0 then rest else (1 <<< 52) + rest
  let power := max field 1
  -- the number is `mantissa * 2 ^ (power - 1075)`, and `4 * mantissa * 2 ^ (power - 1077)`
  let up := 1 <<< (power - 1077)
  { low := (4 * mantissa - if rest = 0 ∧ 1 < field then 1 else 2) * up
    middle := 4 * mantissa * up
    high := (4 * mantissa + 2) * up
    denominator := 1 <<< (1077 - power)
    closed := mantissa % 2 = 0 }

/-- Whether `n`, counted in units of the denominator `d`, lies in the span `[low, high]`. -/
def Span.holds (s : Span) (n : Nat) : Bool :=
  if s.closed then s.low ≤ n && n ≤ s.high else s.low < n && n < s.high

/-- The span measured on the grid of multiples of `10 ^ k`. -/
def Span.onGrid (s : Span) (k : Int) : Span :=
  if 0 ≤ k then { s with denominator := s.denominator * Nat.pow 10 k.toNat }
  else
    let fine := Nat.pow 10 (-k).toNat
    { s with low := s.low * fine, middle := s.middle * fine, high := s.high * fine }

/-- The grid point in the span that is nearest to its middle, the even one of two as near. -/
def Span.nearest? (s : Span) : Option Nat :=
  let below := s.middle / s.denominator
  let above := below + 1
  match s.holds (below * s.denominator), s.holds (above * s.denominator) with
  | false, false => none
  | true, false => some below
  | false, true => some above
  | true, true =>
    let before := s.middle - below * s.denominator
    let after := above * s.denominator - s.middle
    if before < after ∨ (before = after ∧ below % 2 = 0) then some below else some above

/-- The first grid point found on `grids` grids, from that of `10 ^ k` on to finer ones. -/
def Span.search (s : Span) : (grids : Nat) → (k : Int) → Decimal
  | 0, _ => ⟨0, 0⟩
  | grids + 1, k =>
    match (s.onGrid k).nearest? with
    | some n => ⟨n, k⟩
    | none => s.search grids (k - 1)

/-- The shortest decimal that rounds to the absolute value of a finite number. The grids run
from `10 ^ 309`, above every finite number, to `10 ^ (-325)`, below every positive one. -/
def shortest (bits : UInt64) : Decimal :=
  if bits.toNat % (1 <<< 63) = 0 then ⟨0, 0⟩ else (Span.ofBits bits).search 635 309

/-- The decisions of a written form. -/
structure Layout where
  /-- The least power of ten of a leading digit that is written positionally. -/
  least : Int
  /-- The greatest power of ten of a leading digit that is written positionally. -/
  greatest : Int
  /-- What separates the digits from the power of ten. -/
  mark : List Char
  /-- The sign of a power of ten that is not negative. -/
  plus : List Char

/-- The digits with a point after the first `n` of them, zeros filling up on either side. -/
def positional (ds : List Char) (n : Int) : List Char :=
  if n ≤ 0 then '0' :: '.' :: List.replicate (-n).toNat '0' ++ ds
  else if ds.length ≤ n.toNat then ds ++ List.replicate (n.toNat - ds.length) '0' ++ ['.', '0']
  else ds.take n.toNat ++ '.' :: ds.drop n.toNat

/-- The digits with a point after the first, the point left out if nothing follows it. -/
def pointed : List Char → List Char
  | [] => []
  | [d] => [d]
  | d :: ds => d :: '.' :: ds

/-- Write a decimal. -/
def Layout.write (l : Layout) (d : Decimal) : List Char :=
  let ds := Text.digits d.coefficient
  let leading := d.exponent + ds.length - 1
  if l.least ≤ leading ∧ leading ≤ l.greatest then positional ds (leading + 1)
  else pointed ds ++ l.mark ++ (if 0 ≤ leading then l.plus else []) ++ Text.numeral leading

end Decimal

end Contention
