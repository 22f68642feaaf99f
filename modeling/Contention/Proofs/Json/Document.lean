import Mathlib.Data.List.Forall2
import Contention.Proofs.Json.Reads

/-!
# Documents

A `Document` is what a JSON text says, whatever it is meant for: the members of its objects stand in
the order in which they are written, and nothing is left out. `Document.ofText` reads one. It serves
to speak about texts that were written for a certain structure.

`Document.ofText_render` is the main statement: the compact form of a value is read as the document
with the same parts, as long as the integers in it fit into 64 bits.
-/

namespace Contention.Json

/-- What a JSON text says. -/
inductive Document where
  | null
  | boolean (value : Bool)
  | number (value : Number)
  | string (value : String)
  | array (items : List Document)
  | object (members : List (String × Document))

/-! ### Reading -/

/-- The members of an object up to its closing brace; `done` holds those read so far, the last one
first. -/
def entries (item : Reader α) :
    (bound : List Char) → (first : Bool) → (done : List (String × α)) → Reader (List (String × α))
  | [], _, _, _ => .error .ended
  | _ :: bound, first, done, cs => do
    match ← Schema.nextKey first cs with
    | none => .ok (done.reverse, ← Schema.endObject cs)
    | some start =>
      let (key, rest) ← stringBody [] start
      let (value, rest) ← item (← expectColon rest)
      entries item bound false ((key, value) :: done) rest

/-- A member behind the opening quote of its key. -/
private theorem entries_member {item : Reader α} {m : String × List Char} {a : α}
    (hread : Reads item m.2 a) {first : Bool} {c : Char} {bound cs rest : List Char}
    (hnext : Schema.nextKey first cs = .ok (some (behindQuote m rest))) (hrest : Ends rest)
    (done : List (String × α)) :
    entries item (c :: bound) first done cs =
      entries item bound false ((m.1, a) :: done) rest := by
  have hcolon : expectColon (':' :: (m.2 ++ rest)) = .ok (m.2 ++ rest) := rfl
  rw [entries, hnext]
  simp only [stringBody_behindQuote, bind, Except.bind, hcolon, hread rest hrest]

/-- The members of an object behind its first one. -/
private theorem entries_reads {item : Reader α} {ms : List (String × List Char)}
    {es : List (String × α)} (h : List.Forall₂ (fun m e => m.1 = e.1 ∧ Reads item m.2 e.2) ms es)
    {bound : List Char} (hbound : ms.length < bound.length) (done : List (String × α))
    (rest : List Char) :
    entries item bound false done (behind '}' (ms.map memberText) rest) =
      .ok (done.reverse ++ es, rest) := by
  induction h generalizing bound done with
  | nil =>
    obtain ⟨b, bound, rfl⟩ := List.exists_cons_of_length_pos hbound
    simp [entries, behind, Schema.nextKey, Schema.endObject, skipBlanks, isBlank, bind, Except.bind]
  | @cons m e ms es hhead _ ih =>
    obtain ⟨b, bound, rfl⟩ := List.exists_cons_of_length_pos (Nat.zero_lt_of_lt hbound)
    obtain ⟨hkey, hread⟩ := hhead
    have hends := ends_behind (.inr rfl) (ms.map memberText) rest
    rw [entries_member hread (nextKey_behind m ms rest) hends done,
      ih (Nat.lt_of_succ_lt_succ hbound), hkey, List.reverse_cons, List.append_assoc,
      List.singleton_append]

/-- All members of an object read back if their values do. -/
private theorem entries_object {item : Reader α} {ms : List (String × List Char)}
    {es : List (String × α)} (h : List.Forall₂ (fun m e => m.1 = e.1 ∧ Reads item m.2 e.2) ms es)
    (rest : List Char) :
    entries item ('{' :: (commaSeparated (ms.map memberText) ++ '}' :: rest)) true []
      (commaSeparated (ms.map memberText) ++ '}' :: rest) = .ok (es, rest) := by
  cases h with
  | nil =>
    simp [entries, commaSeparated, Schema.nextKey, Schema.endObject, skipBlanks, isBlank, bind,
      Except.bind]
  | @cons m e ms es hhead htail =>
    obtain ⟨hkey, hread⟩ := hhead
    have hends := ends_behind (.inr rfl) (ms.map memberText) rest
    rw [entries_member hread (nextKey_commaSeparated m ms rest) hends [],
      entries_reads htail (length_lt_members m ms rest), hkey]
    rfl

namespace Document

/-- A document in which at most `depth` values are nested. -/
def within : (depth : Nat) → Reader Document
  | 0, _ => .error .ended
  | depth + 1, cs =>
    match skipBlanks cs with
    | [] => .error .ended
    | '"' :: rest => do
      let (s, rest) ← stringBody [] rest
      .ok (.string s, rest)
    | 'n' :: rest => do .ok (.null, ← expectWord ['u', 'l', 'l'] rest)
    | 't' :: rest => do .ok (.boolean true, ← expectWord ['r', 'u', 'e'] rest)
    | 'f' :: rest => do .ok (.boolean false, ← expectWord ['a', 'l', 's', 'e'] rest)
    | '[' :: rest => do
      let (items, rest) ← list (within depth) ('[' :: rest)
      .ok (.array items, rest)
    | '{' :: rest => do
      let (members, rest) ← entries (within depth) ('{' :: rest) true [] rest
      .ok (.object members, rest)
    | start => do
      let (value, rest) ← Json.number start
      .ok (.number value, rest)

/-- Read a document. Nested values take up a character each, so the text bounds its depth. -/
def ofText (text : String) : Except Fault Document := whole (fun cs => within cs.length cs) text

/-- The keys of an object in order, none for any other document. -/
def keys : Document → List String
  | .object members => members.map Prod.fst
  | _ => []

end Document

/-! ### Values as documents -/

mutual

/-- The document that has the parts of a value. -/
def Value.document : Value → Document
  | .boolean value => .boolean value
  | .integer value => .number (.integer value)
  | .string value => .string value
  | .array items => .array (documents items)
  | .object members => .object (memberDocuments members)

/-- The documents of the items of an array. -/
def Value.documents : List Value → List Document
  | [] => []
  | value :: rest => value.document :: documents rest

/-- The documents of the members of an object. -/
def Value.memberDocuments : List (String × Value) → List (String × Document)
  | [] => []
  | (key, value) :: rest => (key, value.document) :: memberDocuments rest

end

namespace Value

theorem documents_eq (items : List Value) : documents items = items.map document := by
  induction items with
  | nil => rfl
  | cons v rest ih => rw [documents, ih, List.map_cons]

theorem memberDocuments_eq (members : List (String × Value)) :
    memberDocuments members = members.map fun m => (m.1, m.2.document) := by
  induction members with
  | nil => rfl
  | cons m rest ih => rw [memberDocuments, ih, List.map_cons]

theorem renderItems_eq (items : List Value) : renderItems items = items.map render := by
  induction items with
  | nil => rfl
  | cons v rest ih => rw [renderItems, ih, List.map_cons]

theorem renderMembers_eq (members : List (String × Value)) :
    renderMembers members = (members.map fun m => (m.1, m.2.render)).map memberText := by
  induction members with
  | nil => rfl
  | cons m rest ih =>
    rw [renderMembers, ih, List.map_cons, List.map_cons, memberText]

/-- Nothing that is written is `null`. -/
theorem document_ne_null (v : Value) : v.document ≠ .null := by
  cases v <;> simp [document]

/-- All integers fit into 64 bits. -/
inductive InRange : Value → Prop
  | boolean (value : Bool) : InRange (.boolean value)
  | integer {value : Int} (h : Fits value) : InRange (.integer value)
  | string (value : String) : InRange (.string value)
  | array {items : List Value} (h : ∀ v ∈ items, InRange v) : InRange (.array items)
  | object {members : List (String × Value)} (h : ∀ m ∈ members, InRange m.2) :
      InRange (.object members)

/-- A value starts with a quote, a bracket, a sign, a digit or one of two letters. -/
theorem starts_render (v : Value) : Starts v.render := by
  cases v with
  | boolean value => cases value <;> exact ⟨_, _, rfl, by decide, by decide, by decide⟩
  | integer value => exact starts_numeral value
  | string value => exact starts_quote value
  | array items => exact ⟨'[', _, rfl, by decide, by decide, by decide⟩
  | object members => exact ⟨'{', _, rfl, by decide, by decide, by decide⟩

/-- An item takes up less room than its array. -/
private theorem length_render_lt_array {items : List Value} {v : Value} (h : v ∈ items) :
    v.render.length < (Value.array items).render.length := by
  have hle := length_le_commaSeparated (List.mem_map_of_mem (f := render) h)
  simp only [render, renderItems_eq, List.length_append, List.length_cons]
  omega

/-- The value of a member takes up less room than its object. -/
private theorem length_render_lt_object {members : List (String × Value)} {m : String × Value}
    (h : m ∈ members) : m.2.render.length < (Value.object members).render.length := by
  have hmem : memberText (m.1, m.2.render) ∈
      (members.map fun m => (m.1, m.2.render)).map memberText :=
    List.mem_map_of_mem (List.mem_map.mpr ⟨m, h, rfl⟩)
  have hle := length_le_commaSeparated hmem
  have hvalue : m.2.render.length ≤ (memberText (m.1, m.2.render)).length := by
    simp only [memberText, List.length_append, List.length_cons]
    omega
  simp only [render, renderMembers_eq, List.length_append, List.length_cons]
  omega

/-- The text of a value is not empty, so neither is a depth that bounds its length. -/
private theorem exists_depth {v : Value} {depth : Nat} (h : v.render.length ≤ depth) :
    ∃ d, depth = d + 1 := by
  obtain ⟨c, cs, hcs, -⟩ := v.starts_render
  rw [hcs] at h
  exact Nat.exists_eq_add_one.mpr (Nat.zero_lt_of_lt h)

/-- A value is read as its document if the depth is no less than the length of the text. -/
private theorem InRange.reads_document {v : Value} (h : v.InRange) {depth : Nat}
    (hdepth : v.render.length ≤ depth) : Reads (Document.within depth) v.render v.document := by
  obtain ⟨depth, rfl⟩ := exists_depth hdepth
  induction h generalizing depth with
  | boolean value =>
    intro rest hrest
    cases value <;>
      simp [Document.within, render, document, skipBlanks, isBlank, expectWord, bind, Except.bind]
  | @integer z hz =>
    intro rest hrest
    have hnumber := reads_number hz rest hrest
    have hblanks := (starts_numeral z).skipBlanks rest
    obtain ⟨c, cs, hcs, hc⟩ := numeral_cons z
    -- none of the other kinds of document starts like a number
    have hne : c ≠ '"' ∧ c ≠ 'n' ∧ c ≠ 't' ∧ c ≠ 'f' ∧ c ≠ '[' ∧ c ≠ '{' := by
      refine ⟨?_, ?_, ?_, ?_, ?_, ?_⟩ <;> exact ne_of_sign_or_digit hc (by decide)
    rw [hcs, List.cons_append] at hnumber hblanks
    rw [render, Document.within, hcs, List.cons_append, hblanks]
    simp [hne, hnumber, document, bind, Except.bind]
  | string s =>
    intro rest hrest
    have hbody := stringBody_flatMap_escaped s.toList [] rest
    rw [List.reverse_nil, List.nil_append, String.ofList_toList] at hbody
    simp [Document.within, render, quote, document, skipBlanks, isBlank, hbody, bind, Except.bind]
  | @array items h ih =>
    intro rest hrest
    have hitem : ∀ v ∈ items, Reads (Document.within depth) v.render v.document := by
      -- the depth goes down by one, and the text of an item is shorter by two at least
      intro v hv
      have hlt := length_render_lt_array hv
      obtain ⟨d, rfl⟩ := exists_depth (Nat.le_of_lt_succ (Nat.lt_of_lt_of_le hlt hdepth))
      exact ih v hv d (by omega)
    have hitems : List.Forall₂ (fun text a => Starts text ∧ Reads (Document.within depth) text a)
        (items.map render) (items.map document) := by
      rw [List.forall₂_map_left_iff, List.forall₂_map_right_iff, List.forall₂_same]
      exact fun v hv => ⟨v.starts_render, hitem v hv⟩
    have hlist := reads_list hitems rest hrest
    rw [List.cons_append, List.cons_append] at hlist
    have hopen (cs : List Char) : skipBlanks ('[' :: cs) = '[' :: cs := rfl
    rw [render, document, documents_eq, renderItems_eq, List.cons_append, List.cons_append,
      Document.within, hopen]
    simp only [hlist, bind, Except.bind]
  | @object members h ih =>
    intro rest hrest
    have hmember : ∀ m ∈ members, Reads (Document.within depth) m.2.render m.2.document := by
      intro m hm
      have hlt := length_render_lt_object hm
      obtain ⟨d, rfl⟩ := exists_depth (Nat.le_of_lt_succ (Nat.lt_of_lt_of_le hlt hdepth))
      exact ih m hm d (by omega)
    have hmembers : List.Forall₂ (fun m e => m.1 = e.1 ∧ Reads (Document.within depth) m.2 e.2)
        (members.map fun m => (m.1, m.2.render)) (members.map fun m => (m.1, m.2.document)) := by
      rw [List.forall₂_map_left_iff, List.forall₂_map_right_iff, List.forall₂_same]
      exact fun m hm => ⟨rfl, hmember m hm⟩
    have hentries := entries_object hmembers rest
    have hopen (cs : List Char) : skipBlanks ('{' :: cs) = '{' :: cs := rfl
    rw [render, document, memberDocuments_eq, renderMembers_eq, List.cons_append, List.cons_append,
      List.append_assoc, List.singleton_append, Document.within, hopen]
    simp only [hentries, bind, Except.bind]

end Value

/-- **Values are read as their documents.** -/
theorem Document.ofText_render {v : Value} (h : v.InRange) :
    Document.ofText (String.ofList v.render) = .ok v.document := by
  have hread : Reads (fun cs => within cs.length cs) v.render v.document := by
    intro rest hrest
    exact h.reads_document (by simp) rest hrest
  exact Reads.whole (by simpa using hread)

end Contention.Json
