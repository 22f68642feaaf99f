import Contention.Record.Wire
import Contention.Proofs.Json.Document

/-!
# Payloads read back

A payload is written by `Record.payload` and read by `Record.ofText`. Whatever characters the texts
of a record hold, whatever its numbers, and whichever of its parts are there, the payload reads back
as the record. Read as a document, it is an object whose keys are those of the parts that are there,
in the order of the fields, and none of its values is `null`. Both are said by `payload_reads_back`.
-/

namespace Contention

open Json

/-! ### Frames -/

namespace Frame

/-- A frame reads back. -/
private theorem reads_toValue (f : Frame) : Reads schema.read f.toValue.render f := by
  have hfills : schema.Fills [] schema.blank
      [("class", quote f.declaringClass), ("method", quote f.methodName),
        ("signature", quote f.signature)] ["signature", "method", "class"] f :=
    .member rfl (by decide) (reads_string _).field <|
      .member rfl (by decide) (reads_string _).field <|
      .member rfl (by decide) (reads_string _).field (.done _ _)
  exact Schema.reads_object hfills rfl

/-- A list of frames reads back. -/
private theorem reads_list_toValue (fs : List Frame) :
    Reads (list schema.read) (Value.array (fs.map toValue)).render fs := by
  have hframes : List.Forall₂ (fun text f => Starts text ∧ Reads schema.read text f)
      ((fs.map toValue).map Value.render) (fs.map id) := by
    rw [List.forall₂_map_left_iff, List.forall₂_map_left_iff, List.forall₂_map_right_iff,
      List.forall₂_same]
    exact fun f _ => ⟨f.toValue.starts_render, f.reads_toValue⟩
  rw [List.map_id] at hframes
  rw [Value.render, Value.renderItems_eq]
  exact reads_list hframes

end Frame

/-! ### Records -/

/-- Going on with a member that is only there together with a part of the structure. -/
theorem Json.Schema.Fills.part {s : Schema α} {seen seen' : List String} {a : α}
    {ms : List (String × List Char)} (set : Option β → α) (h : s.Fills seen a ms seen' (set none))
    (key : String) (text : β → List Char) {field : Field α}
    (hfind : s.fields.find? (fun f => f.key == key) = some field) (hnew : key ∉ seen')
    (hread : ∀ b, Reads (field.read (set none)) (text b) (set (some b))) (part : Option β) :
    s.Fills seen a (ms ++ (part.map fun b => (key, text b)).toList)
      ((part.map fun _ => key).toList ++ seen') (set part) := by
  refine h.append ?_
  cases part with
  | none => exact .done seen' _
  | some b => exact .member hfind hnew (hread b) (.done _ _)

namespace Record

/-- The texts of the members that are present. -/
private theorem members_texts (r : Record) :
    r.members.map (fun m => (m.1, m.2.render)) =
      [("Class", quote r.className), ("numTypeContentions", Text.numeral r.count.toNat)] ++
        (r.stackTrace.map fun fs =>
          ("stackTrace", (Value.array (fs.map Frame.toValue)).render)).toList ++
        (r.threadName.map fun s => ("threadName", quote s)).toList ++
        (r.osThreadId.map fun id => ("threadID", Text.numeral id.toInt)).toList := by
  obtain ⟨className, count, _ | fs, _ | s, _ | id⟩ := r <;> rfl

/-- The members of a record fill the blank one, and no required field is left out. -/
private theorem fills_members (r : Record) :
    ∃ seen, schema.Fills [] schema.blank (r.members.map fun m => (m.1, m.2.render)) seen r ∧
      schema.complete seen r = .ok r := by
  obtain ⟨className, count, stackTrace, threadName, osThreadId⟩ := r
  have hrequired : schema.Fills [] schema.blank
      [("Class", quote className), ("numTypeContentions", Text.numeral count.toNat)]
      ["numTypeContentions", "Class"] ⟨className, count, none, none, none⟩ :=
    .member rfl (by decide) (reads_string _).field <|
      .member rfl (by decide) (reads_word _ _).field (.done _ _)
  -- the parts that may be missing are filled in one by one, each over the structure so far
  have hstack := Schema.Fills.part (fun fs => (⟨className, count, fs, none, none⟩ : Record))
    hrequired "stackTrace" (fun fs => (Value.array (fs.map Frame.toValue)).render) rfl (by decide)
    (fun fs => ((Frame.reads_list_toValue fs).nullable (Value.starts_render _)).field) stackTrace
  have hname := Schema.Fills.part (fun s => (⟨className, count, stackTrace, s, none⟩ : Record))
    hstack "threadName" quote rfl (by cases stackTrace <;> simp)
    (fun s => ((reads_string s).nullable (starts_quote s)).field) threadName
  have hid := Schema.Fills.part
    (fun id => (⟨className, count, stackTrace, threadName, id⟩ : Record))
    hname "threadID" (fun id => Text.numeral (Int64.toInt id)) rfl
    (by cases stackTrace <;> cases threadName <;> simp)
    (fun id => ((reads_int64 id).nullable (starts_numeral _)).field) osThreadId
  rw [members_texts]
  refine ⟨_, hid, ?_⟩
  cases stackTrace <;> cases threadName <;> cases osThreadId <;> rfl

/-- **A record reads back.** -/
theorem reads_toValue (r : Record) : Reads schema.read r.toValue.render r := by
  obtain ⟨seen, hfills, hcomplete⟩ := r.fills_members
  rw [toValue, Value.render, Value.renderMembers_eq]
  exact Schema.reads_object hfills hcomplete

theorem ofText_payload (r : Record) : ofText r.payload = .ok r := by
  have hread : Reads schema.read r.payload.toList r := by
    rw [payload, String.toList_ofList]
    exact r.reads_toValue
  exact hread.whole

/-! ### Records as documents -/

/-- The numbers of a record fit into 64 bits. -/
private theorem inRange_toValue (r : Record) : r.toValue.InRange := by
  refine .object fun m hm => ?_
  simp only [members, List.mem_append, List.mem_cons, List.not_mem_nil, or_false, Option.mem_toList,
    Option.map_eq_some_iff] at hm
  rcases hm with (((rfl | rfl) | ⟨fs, -, rfl⟩) | ⟨s, -, rfl⟩) | ⟨id, -, rfl⟩
  · exact .string r.className
  · exact .integer (fits_word r.count)
  · refine .array fun v hv => ?_
    obtain ⟨f, -, rfl⟩ := List.mem_map.mp hv
    refine .object fun m hm => ?_
    simp only [List.mem_cons, List.not_mem_nil, or_false] at hm
    rcases hm with rfl | rfl | rfl <;> exact .string _
  · exact .string s
  · exact .integer (fits_int64 id)

/-- What a payload says. -/
theorem ofText_payload_document (r : Record) :
    Document.ofText r.payload =
      .ok (.object (r.members.map fun m => (m.1, m.2.document))) := by
  rw [payload, Document.ofText_render r.inRange_toValue, toValue, Value.document,
    Value.memberDocuments_eq]

/-- The keys of the parts that are there. -/
theorem keys_members (r : Record) :
    r.members.map Prod.fst = ["Class", "numTypeContentions"] ++
      (if r.stackTrace.isSome then ["stackTrace"] else []) ++
      (if r.threadName.isSome then ["threadName"] else []) ++
      (if r.osThreadId.isSome then ["threadID"] else []) := by
  obtain ⟨className, count, _ | fs, _ | s, _ | id⟩ := r <;> rfl

/-- Only frames are written under the key of the stack. -/
private theorem stackTrace_mem_members {r : Record} {v : Value}
    (h : ("stackTrace", v) ∈ r.members) :
    ∃ fs : List Frame, v = .array (fs.map Frame.toValue) := by
  simp only [members, List.mem_append, List.mem_cons, List.not_mem_nil, or_false,
    Option.mem_toList, Option.map_eq_some_iff, Prod.mk.injEq] at h
  rcases h with (((⟨hkey, -⟩ | ⟨hkey, -⟩) | ⟨fs, -, -, hv⟩) | ⟨s, -, hkey, -⟩) | ⟨id, -, hkey, -⟩
  · exact absurd hkey (by decide)
  · exact absurd hkey (by decide)
  · exact ⟨fs, hv.symm⟩
  · exact absurd hkey (by decide)
  · exact absurd hkey (by decide)

end Record

/-- **Payloads read back.** The payload of a record reads back as this very record. As a document
it is an object with the keys of the parts that are there and no others, in the order of the
fields; none of its values is `null`, and each item of its stack has just the keys of a frame. -/
theorem payload_reads_back (r : Record) :
    Record.ofText r.payload = .ok r ∧
      ∃ members, Document.ofText r.payload = .ok (.object members) ∧
        members.map Prod.fst = ["Class", "numTypeContentions"] ++
          (if r.stackTrace.isSome then ["stackTrace"] else []) ++
          (if r.threadName.isSome then ["threadName"] else []) ++
          (if r.osThreadId.isSome then ["threadID"] else []) ∧
        (∀ m ∈ members, m.2 ≠ .null) ∧
        ∀ m ∈ members, m.1 = "stackTrace" →
          ∃ items, m.2 = .array items ∧
            ∀ item ∈ items, item.keys = ["class", "method", "signature"] := by
  refine ⟨r.ofText_payload, _, r.ofText_payload_document, ?_, ?_, ?_⟩
  · rw [List.map_map]
    exact r.keys_members
  · intro m hm
    obtain ⟨⟨key, v⟩, -, rfl⟩ := List.mem_map.mp hm
    exact v.document_ne_null
  · intro m hm hkey
    obtain ⟨⟨key, v⟩, hmem, rfl⟩ := List.mem_map.mp hm
    obtain rfl : key = "stackTrace" := hkey
    obtain ⟨fs, rfl⟩ := Record.stackTrace_mem_members hmem
    refine ⟨fs.map fun f => f.toValue.document, ?_, fun item hitem => ?_⟩
    · rw [Value.document, Value.documents_eq, List.map_map]
      rfl
    · obtain ⟨f, -, rfl⟩ := List.mem_map.mp hitem
      rfl

/-- A record whose type needs escapes of both kinds, whose numbers are the extreme ones, and whose
stack has a frame of empty texts. -/
def awkwardRecord : Record where
  className := "\"\\/\u2028\x00\x1f\t\u00e9"
  count := 18446744073709551615
  stackTrace := some [⟨"", "", ""⟩]
  osThreadId := some (-9223372036854775808)

/-- It reads back, and its stack is written with the keys of a frame. -/
theorem payload_reads_back_awkwardRecord :
    Record.ofText awkwardRecord.payload = .ok awkwardRecord ∧
      ∃ members stack, Document.ofText awkwardRecord.payload = .ok (.object members) ∧
        members.map Prod.fst = ["Class", "numTypeContentions", "stackTrace", "threadID"] ∧
        ("stackTrace", stack) ∈ members ∧ stack ≠ .null ∧
        ∃ items, stack = .array items ∧
          ∀ item ∈ items, item.keys = ["class", "method", "signature"] := by
  obtain ⟨hread, members, hdocument, hkeys, hnull, hstack⟩ := payload_reads_back awkwardRecord
  have hmem : "stackTrace" ∈ members.map Prod.fst := by
    rw [hkeys]
    decide
  obtain ⟨⟨key, stack⟩, hm, hkey⟩ := List.mem_map.mp hmem
  obtain rfl : key = "stackTrace" := hkey
  exact ⟨hread, members, stack, hdocument, hkeys, hm, hnull _ hm, hstack _ hm rfl⟩

end Contention
