import Contention.Proofs.Record
import Contention.Proofs.Station

/-!
# Records as lines

A writer that is handed payloads takes one line for each of them. Two things make the lines come
apart again: no payload holds a line feed, whatever characters the texts of its record hold
(`Record.lineFeed_notMem_encode_payload`), and offering bytes again and again until all are taken
neither drops nor reorders any of them (`Outlet.Reliable.written_sendAll`). `record_lines` puts both
together.

How many bytes a single write takes is up to the writer. An `Outlet` may decide it anew each time;
`Writer.outlet` is the outlet that a `Writer` is.
-/

namespace Contention

open Json

/-! ### No payload holds a line feed -/

/-- A numeral holds digits and at most a sign. -/
private theorem Text.lineFeed_notMem_numeral (z : Int) : '\n' ∉ numeral z := by
  have hdigits : '\n' ∉ digits z.natAbs := fun h => by
    simpa using isDigit_of_mem_digits h
  rw [numeral]
  split
  · simpa using hdigits
  · exact hdigits

namespace Json

private theorem lineFeed_notMem_escaped (c : Char) : '\n' ∉ escaped c := by
  unfold escaped
  split
  iterate 7 · decide
  next hc _ _ =>
    split
    · next hlow =>
      have hhex : ∀ n < 32, '\n' ∉
          ['\\', 'u', '0', '0', Nat.digitChar (n / 16), Nat.digitChar (n % 16)] := by decide
      exact hhex c.toNat hlow
    · simpa [eq_comm] using hc

private theorem lineFeed_notMem_quote (s : String) : '\n' ∉ quote s := by
  have hbody : '\n' ∉ s.toList.flatMap escaped := by
    rw [List.mem_flatMap]
    rintro ⟨c, -, hc⟩
    exact lineFeed_notMem_escaped c hc
  simpa [quote] using hbody

private theorem notMem_commaSeparated {c : Char} (hc : c ≠ ',') {texts : List (List Char)}
    (h : ∀ text ∈ texts, c ∉ text) : c ∉ commaSeparated texts := by
  fun_induction commaSeparated texts with
  | case1 => simp
  | case2 text => exact h text (by simp)
  | case3 text rest _ ih =>
    have hrest := ih fun t ht => h t (by simp [ht])
    simpa [hc, hrest] using h text (by simp)

mutual

/-- **Nothing is written over several lines.** -/
theorem Value.lineFeed_notMem_render : (v : Value) → '\n' ∉ v.render
  | .boolean true => by decide
  | .boolean false => by decide
  | .integer value => Text.lineFeed_notMem_numeral value
  | .string value => lineFeed_notMem_quote value
  | .array items => by
    simpa [render] using notMem_commaSeparated (by decide) (lineFeed_notMem_renderItems items)
  | .object members => by
    simpa [render] using notMem_commaSeparated (by decide) (lineFeed_notMem_renderMembers members)

private theorem Value.lineFeed_notMem_renderItems :
    (items : List Value) → ∀ text ∈ renderItems items, '\n' ∉ text
  | [] => by simp [renderItems]
  | v :: rest => by
    simpa [renderItems] using
      ⟨lineFeed_notMem_render v, lineFeed_notMem_renderItems rest⟩

private theorem Value.lineFeed_notMem_renderMembers :
    (members : List (String × Value)) → ∀ text ∈ renderMembers members, '\n' ∉ text
  | [] => by simp [renderMembers]
  | (key, v) :: rest => by
    simpa [renderMembers, lineFeed_notMem_quote key] using
      ⟨lineFeed_notMem_render v, lineFeed_notMem_renderMembers rest⟩

end

end Json

/-- The byte of a line feed stands for nothing but a line feed. -/
private theorem Writer.lineFeed_notMem_utf8EncodeChar {c : Char} (hc : c ≠ '\n') :
    lineFeed ∉ String.utf8EncodeChar c := by
  have hcode : c.val.toNat ≠ 10 := fun h => hc (Char.ext (UInt32.toNat_inj.mp h))
  have hbyte : ∀ m, m < 256 → m ≠ 10 → lineFeed ≠ UInt8.ofNat m := by
    intro m hlt hne h
    have hm : lineFeed.toNat = m % 256 := by rw [h, UInt8.toNat_ofNat']
    rw [Nat.mod_eq_of_lt hlt] at hm
    exact hne hm.symm
  simp only [String.utf8EncodeChar]
  split_ifs <;> simp only [List.mem_cons, List.not_mem_nil, or_false, not_or] <;>
    and_intros <;> apply hbyte <;> omega

/-- **The bytes of a payload hold no line feed.** -/
theorem Record.lineFeed_notMem_encode_payload (r : Record) :
    Writer.lineFeed ∉ Writer.encode r.payload := by
  rw [Writer.encode, List.mem_flatMap]
  rintro ⟨c, hc, hbyte⟩
  rw [payload, String.toList_ofList] at hc
  refine Writer.lineFeed_notMem_utf8EncodeChar ?_ hbyte
  rintro rfl
  exact r.toValue.lineFeed_notMem_render hc

/-! ### Lines come apart at their line feeds -/

/-- Lines that each end in a separator, cut at the separators. -/
private theorem splitOn_flatMap_append [BEq α] [LawfulBEq α] (separator : α) {lines : List (List α)}
    (h : ∀ line ∈ lines, separator ∉ line) :
    (lines.flatMap fun line => line ++ [separator]).splitOn separator = lines ++ [[]] := by
  induction lines with
  | nil => rfl
  | cons line rest ih =>
    have hline : ∀ a ∈ line, (a == separator) = false := fun a ha => by
      rw [beq_eq_false_iff_ne]
      rintro rfl
      exact h line (by simp) ha
    rw [List.flatMap_cons, List.append_assoc, List.singleton_append, List.splitOn,
      List.splitOnP_append_cons_of_forall_mem hline separator (by simp), ← List.splitOn,
      ih fun l hl => h l (by simp [hl]), List.cons_append]

/-! ### Lines are read back -/

/-- No two records have the same payload. -/
theorem Record.payload_injective : Function.Injective Record.payload := by
  intro r r' h
  have hread := r.ofText_payload
  rw [h, r'.ofText_payload] at hread
  exact (Except.ok.inj hread).symm

/-- The text that bytes stand for, if they are well-formed. -/
def Writer.decode (bytes : List UInt8) : Option String := String.fromUTF8? bytes.toByteArray

private theorem Writer.decode_encode (text : String) : decode (encode text) = some text := by
  have hvalid : (encode text).toByteArray.IsValidUTF8 := .intro text.toList rfl
  rw [decode, String.fromUTF8?, dif_pos hvalid]
  have htext : (String.ofList text.toList).toByteArray = (encode text).toByteArray :=
    String.toByteArray_ofList
  rw [String.ofList_toList] at htext
  exact congrArg some (String.toByteArray_inj.mp htext.symm)

/-- The record that a line holds, if it holds one. -/
def Record.ofLine (line : List UInt8) : Option Record :=
  (Writer.decode line).bind fun text => (ofText text).toOption

private theorem Record.ofLine_encode_payload (r : Record) :
    ofLine (Writer.encode r.payload) = some r := by
  rw [ofLine, Writer.decode_encode, Option.bind_some, r.ofText_payload]
  rfl

/-- Bytes that come apart at their line feeds into the payloads of records, in order, with an empty
piece behind the last line feed; and these pieces read back as the records. -/
def Framed (records : List Record) (bytes : List UInt8) : Prop :=
  bytes.splitOn Writer.lineFeed = records.map (fun r => Writer.encode r.payload) ++ [[]] ∧
    (bytes.splitOn Writer.lineFeed).dropLast.map Record.ofLine = records.map some

/-- The lines of payloads, one behind the other. -/
def Writer.lines (payloads : List String) : List UInt8 :=
  payloads.flatMap fun payload => encode payload ++ [lineFeed]

/-- The lines of the payloads of records are framed. -/
private theorem framed_lines (records : List Record) :
    Framed records (Writer.lines (records.map Record.payload)) := by
  have hsplit : (Writer.lines (records.map Record.payload)).splitOn Writer.lineFeed =
      records.map (fun r => Writer.encode r.payload) ++ [[]] := by
    have hlines : Writer.lines (records.map Record.payload) =
        (records.map fun r => Writer.encode r.payload).flatMap fun line =>
          line ++ [Writer.lineFeed] := by
      rw [Writer.lines, List.flatMap_map, List.flatMap_map]
    rw [hlines]
    refine splitOn_flatMap_append Writer.lineFeed fun line hline => ?_
    obtain ⟨r, -, rfl⟩ := List.mem_map.mp hline
    exact r.lineFeed_notMem_encode_payload
  refine ⟨hsplit, ?_⟩
  rw [hsplit, List.dropLast_concat, List.map_map]
  refine List.map_congr_left fun r _ => ?_
  rw [Function.comp_apply, r.ofLine_encode_payload]

/-! ### Outlets -/

/-- What lines are written to. The answer to a write starts with the number of bytes taken. -/
structure Outlet (σ : Type) where
  write : σ → List UInt8 → Except WriteError Nat × σ
  flush : σ → Except WriteError Unit × σ

namespace Outlet

variable {σ : Type} (o : Outlet σ)

/-- Offer bytes until all are taken or a write is refused. The first argument bounds the number of
writes. -/
def writeWithin : (bound : Nat) → σ → List UInt8 → Except WriteError Unit × σ
  | _, s, [] => (.ok (), s)
  | 0, s, _ :: _ => (.error .stuck, s)
  | bound + 1, s, byte :: rest =>
    match o.write s (byte :: rest) with
    | (.error e, s) => (.error e, s)
    | (.ok 0, s) => (.error .stuck, s)
    | (.ok taken, s) => writeWithin bound s ((byte :: rest).drop taken)

/-- Offer bytes until all are taken or a write is refused. -/
def writeAll (s : σ) (bytes : List UInt8) : Except WriteError Unit × σ :=
  o.writeWithin bytes.length s bytes

/-- Write a text and a line feed, then flush; the first refusal ends it. -/
def writeLine (s : σ) (text : String) : Except WriteError Unit × σ :=
  match o.writeAll s (Writer.encode text) with
  | (.error e, s) => (.error e, s)
  | (.ok (), s) =>
    match o.writeAll s [Writer.lineFeed] with
    | (.error e, s) => (.error e, s)
    | (.ok (), s) => o.flush s

/-- The outlet after it has been handed payloads one after the other. -/
def sendAll (s : σ) (payloads : List String) : σ :=
  payloads.foldl (fun s payload => (o.writeLine s payload).2) s

/-- **An outlet that never fails.** As long as it is `good`, a write that is offered bytes takes at
least one of them, what it takes stands behind what was `written` before, and it stays good. A flush
writes nothing. -/
structure Reliable (written : σ → List UInt8) (good : σ → Prop) : Prop where
  write : ∀ s, good s → ∀ bytes, bytes ≠ [] → ∃ taken s', o.write s bytes = (.ok taken, s') ∧
    0 < taken ∧ written s' = written s ++ bytes.take taken ∧ good s'
  flush : ∀ s, good s → written (o.flush s).2 = written s ∧ good (o.flush s).2

variable {o} {written : σ → List UInt8} {good : σ → Prop}

/-- A number of writes that is as large as the number of bytes is enough for all of them. -/
theorem Reliable.writeWithin (h : o.Reliable written good) {s : σ} (hgood : good s) {bound : Nat}
    {bytes : List UInt8} (hbound : bytes.length ≤ bound) :
    ∃ s', o.writeWithin bound s bytes = (.ok (), s') ∧ written s' = written s ++ bytes ∧
      good s' := by
  induction bound generalizing s bytes with
  | zero =>
    obtain rfl : bytes = [] := List.length_eq_zero_iff.mp (Nat.le_zero.mp hbound)
    exact ⟨s, rfl, (List.append_nil _).symm, hgood⟩
  | succ bound ih =>
    cases bytes with
    | nil => exact ⟨s, rfl, (List.append_nil _).symm, hgood⟩
    | cons byte rest =>
      obtain ⟨taken, s', hwrite, hpos, hwritten, hgood'⟩ :=
        h.write s hgood (byte :: rest) (List.cons_ne_nil _ _)
      obtain ⟨taken, rfl⟩ := Nat.exists_eq_add_one_of_ne_zero (Nat.ne_zero_of_lt hpos)
      have hdrop : ((byte :: rest).drop (taken + 1)).length ≤ bound := by
        rw [List.length_drop]
        simp only [List.length_cons] at hbound ⊢
        omega
      obtain ⟨last, hrest, hlast, hgoodlast⟩ := ih hgood' hdrop
      refine ⟨last, ?_, ?_, hgoodlast⟩
      · rw [Outlet.writeWithin, hwrite]
        exact hrest
      · rw [hlast, hwritten, List.append_assoc, List.take_append_drop]

/-- A line is written as a whole. -/
theorem Reliable.writeLine (h : o.Reliable written good) {s : σ} (hgood : good s) (text : String) :
    written (o.writeLine s text).2 = written s ++ (Writer.encode text ++ [Writer.lineFeed]) ∧
      good (o.writeLine s text).2 := by
  obtain ⟨s₁, hwrite₁, hwritten₁, hgood₁⟩ :=
    h.writeWithin hgood (Nat.le_refl (Writer.encode text).length)
  obtain ⟨s₂, hwrite₂, hwritten₂, hgood₂⟩ :=
    h.writeWithin hgood₁ (Nat.le_refl [Writer.lineFeed].length)
  obtain ⟨hflush, hgoodflush⟩ := h.flush s₂ hgood₂
  rw [Outlet.writeLine, writeAll, hwrite₁]
  dsimp only
  rw [writeAll, hwrite₂]
  refine ⟨?_, hgoodflush⟩
  rw [hflush, hwritten₂, hwritten₁, List.append_assoc]

/-- **Nothing is dropped or reordered.** -/
theorem Reliable.written_sendAll (h : o.Reliable written good) {s : σ} (hgood : good s)
    (payloads : List String) :
    written (o.sendAll s payloads) = written s ++ Writer.lines payloads := by
  induction payloads generalizing s with
  | nil => exact (List.append_nil _).symm
  | cons payload rest ih =>
    obtain ⟨hline, hgood'⟩ := h.writeLine hgood payload
    rw [sendAll, List.foldl_cons, ← sendAll, ih hgood', hline, List.append_assoc, Writer.lines,
      Writer.lines, List.flatMap_cons]

end Outlet

/-! ### Writers as outlets -/

namespace Writer

/-- The outlet that a writer is. -/
def outlet : Outlet Writer where
  write := write
  flush w := (w.flush, w)

private theorem outlet_writeWithin (bound : Nat) (w : Writer) (bytes : List UInt8) :
    outlet.writeWithin bound w bytes = w.writeWithin bound bytes := by
  induction bound generalizing w bytes with
  | zero => cases bytes <;> rfl
  | succ bound ih =>
    cases bytes with
    | nil => rfl
    | cons byte rest =>
      have hwrite : outlet.write w (byte :: rest) = w.write (byte :: rest) := rfl
      rw [Outlet.writeWithin, Writer.writeWithin, hwrite]
      rcases w.write (byte :: rest) with ⟨_ | _ | taken, w'⟩
      · rfl
      · rfl
      · exact ih w' _

theorem outlet_writeLine (w : Writer) (text : String) :
    outlet.writeLine w text = w.writeLine text := by
  rw [Outlet.writeLine, Writer.writeLine, Outlet.writeAll, outlet_writeWithin, writeAll]
  rcases w.writeWithin (encode text).length (encode text) with ⟨_ | _, w₁⟩
  · rfl
  · dsimp only
    rw [Outlet.writeAll, outlet_writeWithin, writeAll]
    rcases w₁.writeWithin [lineFeed].length [lineFeed] with ⟨_ | _, w₂⟩ <;> rfl

/-- A sink that writes lines hands them to the outlet of its writer. -/
theorem sendAll_outlet (w : Writer) (payloads : List String) :
    (Sink.writer w).sendAll payloads = .writer (outlet.sendAll w payloads) := by
  induction payloads generalizing w with
  | nil => rfl
  | cons payload rest ih =>
    have hline : ((Sink.writer w).send payload).2 = .writer (outlet.writeLine w payload).2 := by
      rw [outlet_writeLine, Sink.send]
      rcases w.writeLine payload with ⟨_ | _, w'⟩ <;> rfl
    rw [Sink.sendAll, List.foldl_cons, ← Sink.sendAll, hline, ih]
    rfl

/-- A writer that has room for any number of bytes and takes at least one at a time never fails,
whatever it says to a flush. -/
private theorem reliable_outlet :
    outlet.Reliable written fun w => w.room = none ∧ w.chunk ≠ some 0 where
  write := by
    rintro w ⟨hroom, hchunk⟩ bytes hbytes
    have hlength : 0 < bytes.length := List.length_pos_iff.mpr hbytes
    have htaken : 0 < limit bytes.length w.chunk := by
      cases hc : w.chunk with
      | none => exact hlength
      | some most =>
        have hmost : 0 < most := Nat.pos_of_ne_zero fun h => hchunk (by rw [hc, h])
        exact Nat.lt_min.mpr ⟨hlength, hmost⟩
    refine ⟨limit bytes.length w.chunk,
      { w with written := w.written ++ bytes.take (limit bytes.length w.chunk) }, ?_, htaken, rfl,
      hroom, hchunk⟩
    simp [outlet, write, hroom, limit]
  flush := fun w h => ⟨rfl, h⟩

end Writer

/-! ### The main result -/

/-- **Records stay apart.** However many bytes a writer takes at a time, as long as it takes some,
the bytes written for the payloads of records come apart at their line feeds into these payloads, in
order, and an empty piece at the end; and the pieces read back as the records. The first part is
about sinks that write lines; the second one is about every outlet that never fails. -/
theorem record_lines (records : List Record) :
    (∀ w : Writer, w.room = none → w.chunk ≠ some 0 → w.written = [] →
      ∃ w' : Writer, (Sink.writer w).sendAll (records.map Record.payload) = .writer w' ∧
        Framed records w'.written) ∧
      ∀ (σ : Type) (o : Outlet σ) (written : σ → List UInt8) (good : σ → Prop),
        o.Reliable written good → ∀ s, good s → written s = [] →
          Framed records (written (o.sendAll s (records.map Record.payload))) := by
  have houtlet : ∀ (σ : Type) (o : Outlet σ) (written : σ → List UInt8) (good : σ → Prop),
      o.Reliable written good → ∀ s, good s → written s = [] →
        Framed records (written (o.sendAll s (records.map Record.payload))) := by
    intro σ o written good h s hgood hempty
    rw [h.written_sendAll hgood, hempty, List.nil_append]
    exact framed_lines records
  refine ⟨fun w hroom hchunk hempty => ?_, houtlet⟩
  exact ⟨_, w.sendAll_outlet _,
    houtlet Writer Writer.outlet _ _ Writer.reliable_outlet w ⟨hroom, hchunk⟩ hempty⟩

/-- Records with line feeds in each of their texts. -/
def manyLineFeeds : List Record :=
  [{ className := "\na.B\n", count := 1, stackTrace := some [⟨"\n", "m\r\n", "()\nV"⟩],
      threadName := some "\n\n" },
    { className := "\n", count := 2 }]

/-- An outlet that takes one, two and three bytes in turn. -/
def unsteady : Outlet (Nat × List UInt8) where
  write s bytes :=
    let taken := min bytes.length (s.1 % 3 + 1)
    (.ok taken, (s.1 + 1, s.2 ++ bytes.take taken))
  flush s := (.ok (), s)

/-- The records stay apart, both in a writer that takes two bytes at a time and in an outlet that
takes now fewer and now more. -/
theorem record_lines_manyLineFeeds :
    (∃ w' : Writer, (Sink.writer { chunk := some 2 }).sendAll (manyLineFeeds.map Record.payload) =
        .writer w' ∧ Framed manyLineFeeds w'.written) ∧
      unsteady.Reliable Prod.snd (fun _ => True) ∧
      Framed manyLineFeeds (unsteady.sendAll (0, []) (manyLineFeeds.map Record.payload)).2 := by
  have hunsteady : unsteady.Reliable Prod.snd (fun _ => True) := by
    refine ⟨fun s _ bytes hbytes => ⟨_, _, rfl, ?_, rfl, trivial⟩, fun s _ => ⟨rfl, trivial⟩⟩
    exact Nat.lt_min.mpr ⟨List.length_pos_iff.mpr hbytes, Nat.succ_pos _⟩
  obtain ⟨hwriter, houtlet⟩ := record_lines manyLineFeeds
  exact ⟨hwriter { chunk := some 2 } rfl (by decide) rfl, hunsteady,
    houtlet _ unsteady _ _ hunsteady (0, []) trivial rfl⟩

end Contention
