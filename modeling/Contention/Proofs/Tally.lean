import Mathlib.Algebra.BigOperators.Group.List.Basic
import Mathlib.Algebra.GroupWithZero.Nat
import Contention.Tally

/-!
# Tallies as what was recorded

A tally is determined by the names that were recorded in it. `recordAll` records names one after the
other, and three facts say what it comes to: each count goes up by the number of records of its name
(`get_recordAll`), the names entered are those recorded (`mem_names_recordAll`), and no name is
entered twice (`nodup_names_recordAll`). Since entries are names with their counts (`entries_eq`),
the **snapshot** of a new tally does not depend on the order of the records: `recordAll_perm`.

The sum of all counts is the `total`. It goes up by one with each record, as long as it fits into a
word.
-/

namespace Contention.Tally

/-- The names entered, in the order of their first records. -/
def names (t : Tally) : List String := t.entries.map Prod.fst

/-- Record names one after the other. -/
def recordAll (t : Tally) (names : List String) : Tally :=
  names.foldl (fun t name => (t.record name).2) t

@[simp]
theorem recordAll_nil (t : Tally) : t.recordAll [] = t := rfl

@[simp]
theorem recordAll_cons (t : Tally) (name : String) (rest : List String) :
    t.recordAll (name :: rest) = (t.record name).2.recordAll rest := rfl

/-! ### Names -/

/-- Raising a count enters its name if it is new. -/
private theorem map_fst_raise (name : String) (entries : List (String × UInt64)) :
    (raise name entries).map Prod.fst =
      if name ∈ entries.map Prod.fst then entries.map Prod.fst
      else entries.map Prod.fst ++ [name] := by
  induction entries with
  | nil => rfl
  | cons e rest ih =>
    obtain ⟨key, count⟩ := e
    by_cases hk : key = name
    · simp [raise, hk]
    · have hk' : name ≠ key := fun h => hk h.symm
      simp only [raise, hk, if_false, List.map_cons, ih, List.mem_cons, hk', false_or]
      split <;> rfl

private theorem names_record (t : Tally) (name : String) :
    (t.record name).2.names = if name ∈ t.names then t.names else t.names ++ [name] :=
  map_fst_raise name t.entries

theorem nodup_names_recordAll {t : Tally} (h : t.names.Nodup) (l : List String) :
    (t.recordAll l).names.Nodup := by
  induction l generalizing t with
  | nil => exact h
  | cons name rest ih =>
    refine ih ?_
    rw [names_record]
    split
    · exact h
    · next hnew => exact List.nodup_append.mpr ⟨h, by simp, by grind⟩

theorem mem_names_recordAll (t : Tally) (l : List String) (name : String) :
    name ∈ (t.recordAll l).names ↔ name ∈ t.names ∨ name ∈ l := by
  induction l generalizing t with
  | nil => simp
  | cons first rest ih =>
    rw [recordAll_cons, ih, names_record]
    split <;> grind

/-! ### Counts -/

/-- Each count goes up by the number of records of its name. -/
theorem get_recordAll (t : Tally) (l : List String) (name : String) :
    (t.recordAll l).get name = t.get name + .ofNat (l.count name) := by
  induction l generalizing t with
  | nil => simp
  | cons first rest ih =>
    rw [recordAll_cons, ih, get_record, List.count_cons]
    by_cases hf : name = first
    · simp [hf, UInt64.add_assoc, UInt64.add_comm 1]
    · simp [hf, Ne.symm hf]

/-- The entry of a name holds its count, if no name is entered twice. -/
private theorem get_of_mem {t : Tally} (h : t.names.Nodup) {name : String} {count : UInt64}
    (hm : (name, count) ∈ t.entries) : t.get name = count := by
  obtain ⟨entries⟩ := t
  induction entries with
  | nil => cases hm
  | cons e rest ih =>
    obtain ⟨key, first⟩ := e
    obtain ⟨hnew, hrest⟩ := List.nodup_cons.mp h
    rcases List.mem_cons.mp hm with heq | hmem
    · cases heq
      simp [get]
    · have hne : name ≠ key := fun heq => hnew (List.mem_map.mpr ⟨_, hmem, heq⟩)
      rw [← ih hrest hmem, get, get, List.lookup_cons, beq_false_of_ne hne]

/-- The entries are the names with their counts. -/
theorem entries_eq {t : Tally} (h : t.names.Nodup) :
    t.entries = t.names.map fun name => (name, t.get name) := by
  have hsame : ∀ e ∈ t.entries, (e.1, t.get e.1) = e := fun e he => by rw [get_of_mem h he]
  rw [names, List.map_map]
  exact ((List.map_congr_left hsame).trans (List.map_id _)).symm

/-! ### Snapshots -/

theorem ranksBefore_trans (a b c : String × UInt64) (hab : ranksBefore a b = true)
    (hbc : ranksBefore b c = true) : ranksBefore a c = true := by
  simp only [ranksBefore, Bool.or_eq_true, Bool.and_eq_true, decide_eq_true_eq, beq_iff_eq] at *
  rcases hab with hab | ⟨hab, hle⟩ <;> rcases hbc with hbc | ⟨hbc, hle'⟩
  · exact .inl (UInt64.lt_trans hbc hab)
  · exact .inl (hbc ▸ hab)
  · exact .inl (hab ▸ hbc)
  · exact .inr ⟨hab.trans hbc, String.le_trans hle hle'⟩

theorem ranksBefore_total (a b : String × UInt64) :
    (ranksBefore a b || ranksBefore b a) = true := by
  simp only [ranksBefore, Bool.or_eq_true, Bool.and_eq_true, decide_eq_true_eq, beq_iff_eq]
  by_cases heq : a.2 = b.2
  · rcases String.le_total a.1 b.1 with hle | hle
    · exact .inl (.inr ⟨heq, hle⟩)
    · exact .inr (.inr ⟨heq.symm, hle⟩)
  · rcases UInt64.lt_or_lt_of_ne heq with hlt | hlt
    · exact .inr (.inl hlt)
    · exact .inl (.inl hlt)

theorem ranksBefore_antisymm {a b : String × UInt64} (hab : ranksBefore a b = true)
    (hba : ranksBefore b a = true) : a = b := by
  simp only [ranksBefore, Bool.or_eq_true, Bool.and_eq_true, decide_eq_true_eq, beq_iff_eq] at *
  rcases hab with hab | ⟨hab, hle⟩ <;> rcases hba with hba | ⟨hba, hle'⟩
  · exact absurd hab (UInt64.lt_asymm hba)
  · exact absurd (hba ▸ hab) (UInt64.lt_irrefl _)
  · exact absurd (hab ▸ hba) (UInt64.lt_irrefl _)
  · exact Prod.ext (String.le_antisymm hle hle') hab

theorem snapshot_perm (t : Tally) : t.snapshot.Perm t.entries :=
  List.mergeSort_perm t.entries ranksBefore

/-- The same entries in another order have the same snapshot. -/
theorem snapshot_eq_of_perm {t t' : Tally} (h : t.entries.Perm t'.entries) :
    t.snapshot = t'.snapshot :=
  List.Perm.eq_of_pairwise (fun _ _ _ _ => ranksBefore_antisymm)
    (List.pairwise_mergeSort ranksBefore_trans ranksBefore_total t.entries)
    (List.pairwise_mergeSort ranksBefore_trans ranksBefore_total t'.entries)
    ((snapshot_perm t).trans (h.trans (snapshot_perm t').symm))

/-- **The order of the records does not matter** to the counts and the snapshot of a new tally. -/
theorem recordAll_perm {l l' : List String} (h : l.Perm l') :
    (∀ name, (recordAll {} l).get name = (recordAll {} l').get name) ∧
      (recordAll {} l).snapshot = (recordAll {} l').snapshot := by
  have hnew : (names {}).Nodup := List.nodup_nil
  have hget : ∀ name, (recordAll {} l).get name = (recordAll {} l').get name := fun name => by
    rw [get_recordAll, get_recordAll, h.count_eq]
  have hnames : (recordAll {} l).names.Perm (recordAll {} l').names := by
    rw [List.perm_ext_iff_of_nodup (nodup_names_recordAll hnew l) (nodup_names_recordAll hnew l')]
    intro name
    rw [mem_names_recordAll, mem_names_recordAll, h.mem_iff]
  refine ⟨hget, snapshot_eq_of_perm ?_⟩
  rw [entries_eq (nodup_names_recordAll hnew l), entries_eq (nodup_names_recordAll hnew l')]
  simp only [hget]
  exact hnames.map _

/-! ### The sum of all counts -/

/-- The sum of all counts. -/
def total (t : Tally) : Nat := (t.entries.map fun e => e.2.toNat).sum

theorem sum_snapshot (t : Tally) : (t.snapshot.map fun e => e.2.toNat).sum = t.total :=
  ((snapshot_perm t).map _).sum_eq

/-- Raising a count adds one to the sum of all counts, as long as the sum fits into a word. -/
private theorem sum_raise (name : String) {entries : List (String × UInt64)}
    (h : (entries.map fun e => e.2.toNat).sum + 1 < UInt64.size) :
    ((raise name entries).map fun e => e.2.toNat).sum =
      (entries.map fun e => e.2.toNat).sum + 1 := by
  induction entries with
  | nil => rfl
  | cons e rest ih =>
    obtain ⟨key, count⟩ := e
    rw [List.map_cons, List.sum_cons] at h
    by_cases hk : key = name
    · -- no count is larger than the sum, so this one does not wrap around
      have hlt : count.toNat + 1 < 2 ^ 64 := by
        simp only [UInt64.size] at h
        omega
      have hcount : (count + 1).toNat = count.toNat + 1 := by
        rw [UInt64.toNat_add, UInt64.toNat_one, Nat.mod_eq_of_lt hlt]
      simp only [raise, hk, if_true, List.map_cons, List.sum_cons, hcount]
      omega
    · simp only [raise, hk, if_false, List.map_cons, List.sum_cons, ih (by omega)]
      omega

theorem total_record {t : Tally} (h : t.total + 1 < UInt64.size) (name : String) :
    (t.record name).2.total = t.total + 1 :=
  sum_raise name h

end Contention.Tally
