/-!
# Decimal numerals

Numerals are written without leading zeros, `-` standing before a negative one. They are read
more freely: leading zeros are allowed, and a sign of either kind may come first. Reading is
bounded by a range that the caller names.
-/

namespace Contention.Text

/-- The decimal digits of `n`. -/
def digits (n : Nat) : List Char := Nat.toDigits 10 n

/-- The decimal numeral of `z`. -/
def numeral (z : Int) : List Char :=
  if z < 0 then '-' :: digits z.natAbs else digits z.natAbs

/-- The decimal numeral of `n` as a string. -/
def showNat (n : Nat) : String := String.ofList (digits n)

/-- The decimal numeral of `z` as a string. -/
def showInt (z : Int) : String := String.ofList (numeral z)

/-- The number that a non-empty row of digits denotes. -/
def readDigits? (cs : List Char) : Option Nat :=
  if cs ≠ [] ∧ cs.all Char.isDigit then some (Nat.ofDigitChars 10 cs 0) else none

/-- A numeral without a minus sign. -/
def readNat? : List Char → Option Nat
  | '+' :: cs => readDigits? cs
  | cs => readDigits? cs

/-- A numeral with an optional sign. -/
def readInt? : List Char → Option Int
  | '-' :: cs => (readDigits? cs).map fun (n : Nat) => -(n : Int)
  | '+' :: cs => (readDigits? cs).map fun (n : Nat) => (n : Int)
  | cs => (readDigits? cs).map fun (n : Nat) => (n : Int)

/-- The least and the greatest integer of 32 bits. -/
def int32Range : Int × Int := (-2147483648, 2147483647)

/-- A numeral with an optional sign that denotes an integer of 32 bits. -/
def readInt32? (cs : List Char) : Option Int :=
  (readInt? cs).filter fun z => int32Range.1 ≤ z && z ≤ int32Range.2

/-- A numeral that denotes a natural number of 64 bits. -/
def readWord? (cs : List Char) : Option UInt64 :=
  ((readNat? cs).filter (· < UInt64.size)).map UInt64.ofNat

/-! ### Digits -/

theorem isDigit_of_mem_digits {n : Nat} {c : Char} (h : c ∈ digits n) : c.isDigit = true :=
  Nat.isDigit_of_mem_toDigits (by decide) (by decide) h

theorem digits_ne_nil (n : Nat) : digits n ≠ [] := Nat.toDigits_ne_nil

end Contention.Text
