import Mathlib.Data.Finset.Dedup
import Mathlib.Data.Finset.Card
import Contention.Proofs.ByteOrder
import Contention.Proofs.Tally

/-!
# What a tally tells of its records

A new tally in which names are recorded one after the other tells, of each name, how often it was
recorded, and its snapshot is the one list that holds every name with its count and is in order:
larger counts first, and among equal counts the names by their bytes. `tally_tells_records` is the
main statement.

The snapshot does not depend on how the entries are kept. Sorting them in any order gives the same
list (`snapshot_eq_of_perm`), and so does recording the names in any order (`recordAll_perm`).
-/

namespace Contention.Tally

/-- The order of a snapshot: larger counts first, then smaller names, byte by byte. -/
def Precedes (a b : String × UInt64) : Prop :=
  b.2 < a.2 ∨ a.2 = b.2 ∧ Writer.encode a.1 < Writer.encode b.1

/-- Entries of different names that are in order are strictly so. -/
private theorem precedes_of_ranksBefore {a b : String × UInt64} (h : ranksBefore a b = true)
    (hne : a.1 ≠ b.1) : Precedes a b := by
  simp only [ranksBefore, Bool.or_eq_true, Bool.and_eq_true, decide_eq_true_eq, beq_iff_eq] at h
  rcases h with hcount | ⟨hcount, hle⟩
  · exact .inl hcount
  · have hlt : a.1 < b.1 := String.not_le.mp fun hge => hne (String.le_antisymm hle hge)
    exact .inr ⟨hcount, (Writer.encode_lt_iff a.1 b.1).mpr hlt⟩

/-! ### Tallies that were new -/

private theorem nodup_names_new (names : List String) : (recordAll {} names).names.Nodup := by
  have hnew : (Tally.names {}).Nodup := List.nodup_nil
  exact nodup_names_recordAll hnew names

private theorem mem_names_new (names : List String) (name : String) :
    name ∈ (recordAll {} names).names ↔ name ∈ names := by
  rw [mem_names_recordAll]
  simp [Tally.names]

/-- A count is the number of records of its name, as long as a word can count them. -/
theorem toNat_get_new {names : List String} (hfew : names.length < UInt64.size) (name : String) :
    ((recordAll {} names).get name).toNat = names.count name := by
  have hcount : names.count name < UInt64.size := Nat.lt_of_le_of_lt List.count_le_length hfew
  have hzero : get {} name = 0 := rfl
  rw [get_recordAll, hzero, UInt64.zero_add, UInt64.toNat_ofNat_of_lt' hcount]

/-- A record answers with the number of records of its name, itself included. -/
private theorem toNat_record_new {past : List String} (hfew : past.length + 1 < UInt64.size)
    (name : String) : ((recordAll {} past).record name).1.toNat = 1 + past.count name := by
  have hanswer :
      ((recordAll {} past).record name).1 = (recordAll {} (past ++ [name])).get name := by
    rw [recordAll, recordAll, List.foldl_concat]
    rfl
  rw [hanswer, toNat_get_new (by simpa using hfew), List.count_append, List.count_singleton_self,
    Nat.add_comm]

private theorem size_new (names : List String) :
    (recordAll {} names).size = names.toFinset.card := by
  have hsame : (recordAll {} names).names.toFinset = names.toFinset := by
    ext name
    rw [List.mem_toFinset, List.mem_toFinset, mem_names_new]
  rw [← hsame, List.toFinset_card_of_nodup (nodup_names_new names), Tally.names, List.length_map,
    size]

/-! ### Snapshots of tallies that were new -/

private theorem nodup_snapshot_new (names : List String) :
    ((recordAll {} names).snapshot.map Prod.fst).Nodup :=
  ((snapshot_perm _).map Prod.fst).nodup_iff.mpr (nodup_names_new names)

/-- The snapshot holds every name that was recorded, with its count. -/
theorem mem_snapshot_new (names : List String) (name : String) (count : UInt64) :
    (name, count) ∈ (recordAll {} names).snapshot ↔
      name ∈ names ∧ count = (recordAll {} names).get name := by
  rw [(snapshot_perm _).mem_iff, entries_eq (nodup_names_new names), List.mem_map]
  constructor
  · rintro ⟨other, hother, heq⟩
    cases heq
    exact ⟨(mem_names_new names name).mp hother, rfl⟩
  · rintro ⟨hname, rfl⟩
    exact ⟨name, (mem_names_new names name).mpr hname, rfl⟩

/-- There is no other list of the entries in the order of a snapshot. -/
private theorem snapshot_eq_of_pairwise {t : Tally} {l : List (String × UInt64)}
    (h : l.Perm t.entries) (hl : l.Pairwise fun a b => ranksBefore a b = true) : t.snapshot = l :=
  List.Perm.eq_of_pairwise (fun _ _ _ _ => ranksBefore_antisymm)
    (List.pairwise_mergeSort ranksBefore_trans ranksBefore_total t.entries) hl
    ((snapshot_perm t).trans h.symm)

private theorem pairwise_snapshot_new (names : List String) :
    (recordAll {} names).snapshot.Pairwise Precedes := by
  have hsorted := List.pairwise_mergeSort ranksBefore_trans ranksBefore_total
    (recordAll {} names).entries
  have hdistinct : (recordAll {} names).snapshot.Pairwise fun a b => a.1 ≠ b.1 :=
    List.pairwise_map.mp (nodup_snapshot_new names)
  exact (hsorted.and hdistinct).imp fun h => precedes_of_ranksBefore h.1 h.2

/-- **A tally tells what was recorded in it.** Fewer than `2 ^ 64` names are recorded in a new
tally. Each record answers with one more than the number of earlier records of its name; the count
of any name is the number of its records; there are as many entries as different names, and none
only if nothing was recorded. The snapshot holds each name once, with its count, and it is strictly
ordered by falling count and then by the bytes of the names, which is to say by their code points.
It depends neither on the order of the records nor on that in which the entries are kept. -/
theorem tally_tells_records (names : List String) (hfew : names.length < UInt64.size) :
    let t := recordAll {} names
    (∀ past name rest, names = past ++ name :: rest →
        ((recordAll {} past).record name).1.toNat = 1 + past.count name) ∧
      ((∀ name, (t.get name).toNat = names.count name) ∧
        t.size = names.toFinset.card ∧ (t.isEmpty = true ↔ names = [])) ∧
      ((t.snapshot.map Prod.fst).Nodup ∧
        (∀ name count, (name, count) ∈ t.snapshot ↔
          name ∈ names ∧ count.toNat = names.count name) ∧
        t.snapshot.Pairwise Precedes ∧
        ∀ a b : String, Writer.encode a < Writer.encode b ↔ a.toList < b.toList) ∧
      (∀ names' : List String, names.Perm names' → (recordAll {} names').snapshot = t.snapshot) ∧
      ∀ entries, entries.Perm t.entries → (Tally.mk entries).snapshot = t.snapshot := by
  intro t
  refine ⟨?_, ⟨toNat_get_new hfew, size_new names, ?_⟩,
    ⟨nodup_snapshot_new names, fun name count => ?_, pairwise_snapshot_new names,
      Writer.encode_lt_iff⟩,
    fun names' hperm => (recordAll_perm hperm).2.symm, fun entries => snapshot_eq_of_perm⟩
  · rintro past name rest rfl
    refine toNat_record_new ?_ name
    rw [List.length_append, List.length_cons] at hfew
    omega
  · have hsize : t.entries.length = names.toFinset.card := size_new names
    rw [isEmpty, List.isEmpty_iff, ← List.length_eq_zero_iff, hsize, Finset.card_eq_zero,
      List.toFinset_eq_empty_iff]
  · rw [mem_snapshot_new, ← toNat_get_new hfew, UInt64.toNat_inj]

/-- Two names with equal counts, of which the one with the larger code point has the longer bytes,
and a third that was recorded most. -/
theorem tally_tells_records_threeNames :
    let names := ["\uffff", "Lock", "😀", "Lock"]
    names.length = 4 ∧
      ((recordAll {} ["\uffff", "Lock", "😀"]).record "Lock").1.toNat = 2 ∧
      ((recordAll {} names).get "Lock").toNat = 2 ∧ ((recordAll {} names).get "Gone").toNat = 0 ∧
      (recordAll {} names).size = 3 ∧
      (recordAll {} names).snapshot = [("Lock", 2), ("\uffff", 1), ("😀", 1)] ∧
      (recordAll {} names.reverse).snapshot = (recordAll {} names).snapshot := by
  intro names
  obtain ⟨hanswers, ⟨hget, hsize, -⟩, -, horder, -⟩ := tally_tells_records names (by decide)
  exact ⟨rfl, hanswers _ _ [] rfl, hget "Lock", hget "Gone", hsize,
    snapshot_eq_of_pairwise (by decide) (by decide), horder _ names.reverse_perm.symm⟩

end Contention.Tally
