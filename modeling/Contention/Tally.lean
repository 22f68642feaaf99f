/-!
# Contention counts by type

A `Tally` counts contention events by the name of the contended type. Entries are never
removed. `Tally.snapshot` lists them by falling count and, among equal counts, by name in code
point order, which is also the order of the names' UTF-8 bytes.
-/

namespace Contention

/-- One count for each type name that was ever recorded, in the order of first records. -/
structure Tally where
  entries : List (String × UInt64) := []
deriving DecidableEq, Repr, Inhabited

namespace Tally

/-- The count of `name`, zero if it was never recorded. -/
def get (t : Tally) (name : String) : UInt64 :=
  (t.entries.lookup name).getD 0

/-- Raise the count of `name` by one, entering it at one if it is new. -/
def raise (name : String) : List (String × UInt64) → List (String × UInt64)
  | [] => [(name, 1)]
  | (key, count) :: rest =>
    if key = name then (key, count + 1) :: rest else (key, count) :: raise name rest

/-- Count one more contention of `name`; the answer starts with the new count. -/
def record (t : Tally) (name : String) : UInt64 × Tally :=
  let t' : Tally := ⟨raise name t.entries⟩
  (t'.get name, t')

/-- Count `n` contentions of `name`; the answer starts with the last count, zero for none. -/
def recordMany (t : Tally) (name : String) (n : Nat) : UInt64 × Tally :=
  n.fold (fun _ _ (_, t) => t.record name) (0, t)

/-- Raising a count in a list of entries, seen through looking names up. -/
theorem lookup_raise (name other : String) (entries : List (String × UInt64)) :
    ((raise name entries).lookup other).getD 0 =
      if other = name then (entries.lookup other).getD 0 + 1
      else (entries.lookup other).getD 0 := by
  induction entries with
  | nil =>
    by_cases h : other = name
    · simp [raise, h]
    · have hb : (other == name) = false := by simpa using h
      simp [raise, List.lookup_cons, h, hb]
  | cons e rest ih =>
    obtain ⟨key, count⟩ := e
    by_cases ho : other = key
    · subst ho
      by_cases hk : other = name <;> simp [raise, hk]
    · have hb : (other == key) = false := by simpa using ho
      by_cases hk : key = name
      · subst hk
        simp [raise, List.lookup_cons, ho, hb]
      · simp [raise, List.lookup_cons, hk, hb, ih]

/-- Recording a name raises its count by one and leaves all other counts alone. -/
theorem get_record (t : Tally) (name other : String) :
    (t.record name).2.get other = if other = name then t.get other + 1 else t.get other :=
  lookup_raise name other t.entries

/-- How many names have been recorded. -/
def size (t : Tally) : Nat := t.entries.length

/-- Whether nothing has been recorded. -/
def isEmpty (t : Tally) : Bool := t.entries.isEmpty

/-- The order of a snapshot: larger counts first, then smaller names. -/
def ranksBefore (a b : String × UInt64) : Bool :=
  decide (b.2 < a.2) || (a.2 == b.2 && decide (a.1 ≤ b.1))

/-- All entries by falling count, ties by rising name. -/
def snapshot (t : Tally) : List (String × UInt64) :=
  t.entries.mergeSort ranksBefore

end Tally

end Contention
