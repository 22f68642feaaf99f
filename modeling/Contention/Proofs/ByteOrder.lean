import Mathlib.Tactic.SplitIfs
import Contention.Writer

/-!
# The order of texts and the order of their bytes

Texts are ordered by their code points, the first difference deciding, and so are lists of bytes.
`Writer.encode_lt_iff` says that both orders agree: a text comes before another one exactly if its
bytes in UTF-8 do.

For single characters, a larger code point has at least as many bytes. If it has more of them, its
first byte is larger. If it has as many, they are digits in base 64, the highest one first, and
`Decides.digit` adds one digit after the other.
-/

namespace Contention.Writer

/-! ### Bytes of numbers -/

private theorem ofNat_cons_lt {m n : Nat} (hlt : m < n) (hn : n < 256) (rest rest' : List UInt8) :
    UInt8.ofNat m :: rest < UInt8.ofNat n :: rest' := by
  refine List.cons_lt_cons_iff.mpr (.inl ?_)
  rwa [UInt8.lt_iff_toNat_lt, UInt8.toNat_ofNat_of_lt' (Nat.lt_trans hlt hn),
    UInt8.toNat_ofNat_of_lt' hn]

/-- Bytes that **decide** between numbers below a bound: those of a smaller number come before
those of a larger one, whatever comes behind either. -/
def Decides (bound : Nat) (bytes : Nat → List UInt8) : Prop :=
  ∀ m n, m < n → n < bound → ∀ rest rest', bytes m ++ rest < bytes n ++ rest'

/-- A first byte with a mark decides between the numbers that fit into it. -/
private theorem decides_first (size mark : Nat) (h : size + mark ≤ 256) :
    Decides size fun n => [UInt8.ofNat (n % size + mark)] := by
  intro m n hlt hn rest rest'
  simp only [Nat.mod_eq_of_lt hn, Nat.mod_eq_of_lt (Nat.lt_trans hlt hn)]
  exact ofNat_cons_lt (by omega) (by omega) rest rest'

/-- One more digit decides between numbers that the digits before it do not tell apart. -/
theorem Decides.digit {bound : Nat} {bytes : Nat → List UInt8} (h : Decides bound bytes) :
    Decides (bound * 64) fun n => bytes (n / 64) ++ [UInt8.ofNat (n % 64 + 0x80)] := by
  intro m n hlt hn rest rest'
  rw [List.append_assoc, List.append_assoc]
  rcases Nat.lt_or_ge (m / 64) (n / 64) with hless | hge
  · exact h _ _ hless (by omega) _ _
  · have hsame : m / 64 = n / 64 := by omega
    rw [hsame]
    exact List.append_left_lt (ofNat_cons_lt (by omega) (by omega) rest rest')

/-! ### Characters -/

/-- The bytes of a character come before those of a larger one, whatever comes behind either. -/
private theorem utf8EncodeChar_append_lt {c d : Char} (h : c < d) (rest rest' : List UInt8) :
    String.utf8EncodeChar c ++ rest < String.utf8EncodeChar d ++ rest' := by
  have hlt : c.val.toNat < d.val.toNat := h
  have hmax : d.val.toNat < 0x110000 := by
    have hvalid := d.valid
    simp only [UInt32.isValidChar, Nat.isValidChar] at hvalid
    omega
  have hquot : ∀ n : Nat, n / 64 / 64 = n / 4096 := fun n => Nat.div_div_eq_div_mul n 64 64
  have hquot' : ∀ n : Nat, n / 4096 / 64 = n / 262144 := fun n => Nat.div_div_eq_div_mul n 4096 64
  have htwo := (decides_first 0x20 0xc0 (by decide)).digit
  have hthree := (decides_first 0x10 0xe0 (by decide)).digit.digit
  have hfour := (decides_first 0x08 0xf0 (by decide)).digit.digit.digit
  simp only [hquot, hquot'] at hthree hfour
  simp only [String.utf8EncodeChar]
  -- the larger code point does not have fewer bytes, which leaves ten pairs of lengths
  split_ifs <;> try omega
  -- one byte against one and more
  iterate 4 · exact ofNat_cons_lt (by omega) (by omega) _ _
  -- two bytes
  · exact htwo _ _ hlt (by omega) _ _
  iterate 2 · exact ofNat_cons_lt (by omega) (by omega) _ _
  -- three bytes
  · exact hthree _ _ hlt (by omega) _ _
  · exact ofNat_cons_lt (by omega) (by omega) _ _
  -- four bytes
  · exact hfour _ _ hlt (by omega) _ _

/-! ### Texts -/

private theorem flatMap_utf8EncodeChar_lt {l l' : List Char} (h : l < l') :
    l.flatMap String.utf8EncodeChar < l'.flatMap String.utf8EncodeChar := by
  induction h with
  | @nil c rest =>
    rw [List.flatMap_nil, List.flatMap_cons]
    obtain ⟨byte, bytes, hbytes⟩ := List.exists_cons_of_ne_nil (@String.utf8EncodeChar_ne_nil c)
    rw [hbytes]
    exact List.nil_lt_cons byte _
  | rel h => exact utf8EncodeChar_append_lt h _ _
  | cons _ ih => exact List.append_left_lt ih

/-- **The order of texts is the order of their bytes.** -/
theorem encode_lt_iff (a b : String) : encode a < encode b ↔ a < b := by
  constructor
  · intro h
    refine Decidable.byContradiction fun hnot => ?_
    -- the bytes of the other text would come first, or be the same
    by_cases hsame : a = b
    · subst hsame
      exact List.lt_irrefl _ h
    · have hle : b ≤ a := String.not_lt.mp hnot
      have hlt : b < a := String.not_le.mp fun hle' => hsame (String.le_antisymm hle' hle)
      exact List.lt_asymm h (flatMap_utf8EncodeChar_lt hlt)
  · exact flatMap_utf8EncodeChar_lt

end Contention.Writer
