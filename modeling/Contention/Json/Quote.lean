import Contention.Json.Read
import Contention.Json.Value

/-!
# Quoted strings read back

`quote` writes a string and `string` reads one. Whatever characters a string holds, reading its
quoted form gives it back and leaves the text behind it untouched (`string_quote`).
-/

namespace Contention.Json

/-- Four hexadecimal digits as they are written for a character below U+0020. -/
theorem hexQuad?_of_lt {n : Nat} (h : n < 0x20) :
    hexQuad? '0' '0' (Nat.digitChar (n / 16)) (Nat.digitChar (n % 16)) = some n := by
  have hquad : ∀ n < 0x20,
      hexQuad? '0' '0' (Nat.digitChar (n / 16)) (Nat.digitChar (n % 16)) = some n := by
    decide
  exact hquad n h

/-- Characters below U+0020 are no surrogates. -/
theorem no_surrogate_of_lt {n : Nat} (h : n < 0x20) :
    isLowSurrogate n = false ∧ isHighSurrogate n = false := by
  simp only [isLowSurrogate, isHighSurrogate, Bool.and_eq_false_iff, decide_eq_false_iff_not]
  omega

/-- Reading one escaped character adds that character to the string. -/
theorem stringBody_escaped (c : Char) (done rest : List Char) :
    stringBody done (escaped c ++ rest) = stringBody (c :: done) rest := by
  unfold escaped
  split
  iterate 7 · simp [stringBody, shortEscape?]
  split
  · next h =>
    obtain ⟨hlow, hhigh⟩ := no_surrogate_of_lt h
    simp [stringBody, hexQuad?_of_lt h, hlow, hhigh]
  · next h =>
    rw [List.singleton_append, stringBody]
    · simp [h]
    all_goals simp_all

/-- Reading escaped characters up to the closing quote gives them all. -/
theorem stringBody_flatMap_escaped (cs done rest : List Char) :
    stringBody done (cs.flatMap escaped ++ '"' :: rest) =
      .ok (String.ofList (done.reverse ++ cs), rest) := by
  induction cs generalizing done with
  | nil => simp [stringBody]
  | cons c cs ih =>
    rw [List.flatMap_cons, List.append_assoc, stringBody_escaped, ih]
    simp

/-- A quoted string reads back, whatever stands behind it. -/
theorem string_quote (s : String) (rest : List Char) :
    string (quote s ++ rest) = .ok (s, rest) := by
  simp [string, quote, skipBlanks, isBlank, stringBody_flatMap_escaped]

end Contention.Json
