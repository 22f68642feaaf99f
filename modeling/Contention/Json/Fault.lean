import Contention.Decimal
import Contention.Text.Quoted

/-!
# Why a JSON text is refused

A text is read from left to right, and the first problem found decides. There are three kinds
of problem: the text **ends** too early, it is not in the **grammar**, or it holds a
well-formed value that is not the one asked for, a **mismatch**.
-/

namespace Contention.Json

/-- What stands in a text, as far as a message tells it. -/
inductive Found where
  | null
  | boolean (value : Bool)
  | integer (value : Int)
  /-- A number that is no integer of 64 bits, as the bits of its binary form. -/
  | real (bits : UInt64)
  | string (value : String)
  | sequence
  | map
deriving DecidableEq, Repr

/-- What was asked for. -/
inductive Expected where
  | string
  | boolean
  | sequence
  /-- A signed integer of 32 bits. -/
  | int32
  /-- A signed integer of 64 bits. -/
  | int64
  /-- A natural number of 64 bits that counts. -/
  | count
  /-- A natural number of 64 bits that points into a list. -/
  | index
  /-- No content. -/
  | nothing
  /-- A structure with the given title. -/
  | struct (title : String)
deriving DecidableEq, Repr

/-- A well-formed value that is not the one asked for. -/
inductive Mismatch where
  /-- Another kind of value. -/
  | type (found : Found) (expected : Expected)
  /-- An integer outside the range asked for. -/
  | range (value : Int) (expected : Expected)
  /-- An array that ends before a required field of the structure. -/
  | length (present : Nat) (title : String) (declared : Nat)
  /-- An object without a required key. -/
  | missing (key : String)
  /-- An object in which a key of the structure stands twice. -/
  | duplicate (key : String)
  /-- The name of none of the choices. -/
  | choice (found : String) (known : List String)
deriving DecidableEq, Repr

/-- The first problem found in a text. -/
inductive Fault where
  | ended
  | grammar
  | mismatch (cause : Mismatch)
deriving DecidableEq, Repr

/-! ### Messages -/

/-- Real numbers in messages: positional while the leading digit stands for `10 ^ (-5)` to
`10 ^ 15`, with a power of ten beyond. -/
def realLayout : Decimal.Layout := ⟨-5, 15, ['e'], ['+']⟩

/-- The text of a real number in a message. -/
def realText (bits : UInt64) : String :=
  let sign := if Decimal.isNegative bits then ['-'] else []
  String.ofList (sign ++ realLayout.write (Decimal.shortest bits))

/-- What was found, in words. -/
def Found.phrase : Found → String
  | .null => "null"
  | .boolean value => "boolean `" ++ (if value then "true" else "false") ++ "`"
  | .integer value => "integer `" ++ Text.showInt value ++ "`"
  | .real bits => "floating point `" ++ realText bits ++ "`"
  | .string value => "string " ++ Text.quoted value
  | .sequence => "sequence"
  | .map => "map"

/-- What was asked for, in words. -/
def Expected.phrase : Expected → String
  | .string => "a string"
  | .boolean => "a boolean"
  | .sequence => "a sequence"
  | .int32 => "i32"
  | .int64 => "i64"
  | .count => "u64"
  | .index => "usize"
  | .nothing => "unit"
  | .struct title => "struct " ++ title

/-- The text of a mismatch. -/
def Mismatch.message : Mismatch → String
  | .type found expected => "invalid type: " ++ found.phrase ++ ", expected " ++ expected.phrase
  | .range value expected =>
    "invalid value: " ++ (Found.integer value).phrase ++ ", expected " ++ expected.phrase
  | .length present title declared =>
    "invalid length " ++ Text.showNat present ++ ", expected struct " ++ title ++ " with " ++
      Text.showNat declared ++ " elements"
  | .missing key => "missing field `" ++ key ++ "`"
  | .duplicate key => "duplicate field `" ++ key ++ "`"
  | .choice found known =>
    "unknown variant `" ++ found ++ "`, expected one of " ++
      String.intercalate ", " (known.map fun name => "`" ++ name ++ "`")

/-- The text of a fault, without its position. The words for a text that ends too early or is not in
the grammar are this library's own and do not tell such faults apart any further. -/
def Fault.message : Fault → String
  | .ended => "the text ends too early"
  | .grammar => "the text is not JSON"
  | .mismatch cause => cause.message

end Contention.Json
