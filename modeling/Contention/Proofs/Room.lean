import Contention.Proofs.Framing

/-!
# Writing until there is no room

A writer may have room for a certain number of bytes and refuse every write after that. What it ends
up with then is a beginning of all the lines that it was handed, as long as there is room for: it
does not matter how many bytes single writes take, and once a line is cut nothing comes behind it.

The notion behind this is `Outlet.Took`: of some bytes, as many were written as there was room for.
It composes (`Took.trans`), so it goes from single writes to lines and from lines to any number of
them (`Limited.took_sendAll`). Whether a line fails can be told from the lengths of the lines up to
it (`Limited.writeLine_behind`).
-/

namespace Contention

open Log (Entry)

private theorem Writer.lines_append (first later : List String) :
    lines (first ++ later) = lines first ++ lines later := List.flatMap_append

namespace Outlet

variable {σ : Type} {written : σ → List UInt8} {room : σ → Nat}

/-- `s'` is `s` after some bytes were offered: as many were **written as there was room** for. -/
structure Took (written : σ → List UInt8) (room : σ → Nat) (s : σ) (bytes : List UInt8) (s' : σ) :
    Prop where
  written_eq : written s' = written s ++ bytes.take (room s)
  room_eq : room s' = room s - bytes.length

/-- Nothing was written. -/
theorem Took.of_eq {s s' : σ} (hwritten : written s' = written s) (hroom : room s' = room s)
    {bytes : List UInt8} (hnone : bytes = [] ∨ room s = 0) : Took written room s bytes s' := by
  rcases hnone with rfl | hzero
  · exact ⟨by simp [hwritten], by simp [hroom]⟩
  · exact ⟨by simp [hwritten, hzero], by simp [hroom, hzero]⟩

/-- Some of the bytes were written. -/
theorem Took.take {s s' : σ} {bytes : List UInt8} {taken : Nat} (hlength : taken ≤ bytes.length)
    (hle : taken ≤ room s) (hwritten : written s' = written s ++ bytes.take taken)
    (hroom : room s' = room s - taken) : Took written room s (bytes.take taken) s' := by
  constructor
  · rw [hwritten, List.take_take, Nat.min_eq_right hle]
  · rw [hroom, List.length_take, Nat.min_eq_left hlength]

/-- **First some bytes, then others.** -/
theorem Took.trans {s s' s'' : σ} {first later : List UInt8} (h : Took written room s first s')
    (h' : Took written room s' later s'') : Took written room s (first ++ later) s'' := by
  constructor
  · rw [h'.written_eq, h.written_eq, h.room_eq, List.append_assoc, List.take_append]
  · rw [h'.room_eq, h.room_eq, List.length_append, Nat.sub_sub]

/-- Where there is no room left, other bytes make no difference. -/
private theorem Took.append_of_full {s s' : σ} {bytes : List UInt8}
    (h : Took written room s bytes s') (hfull : room s ≤ bytes.length) (later : List UInt8) :
    Took written room s (bytes ++ later) s' := by
  constructor
  · rw [h.written_eq, List.take_append_of_le_length hfull]
  · rw [h.room_eq, List.length_append]
    omega

/-- **An outlet with limited room.** As long as it is `good`, a write is refused if there is no
room, and otherwise takes at least one of the bytes and no more than there is room for. A flush
writes nothing and is always answered alike. -/
structure Limited (o : Outlet σ) (written : σ → List UInt8) (room : σ → Nat) (good : σ → Prop)
    (answer : Except WriteError Unit) : Prop where
  refuse : ∀ s, good s → room s = 0 → ∀ bytes, bytes ≠ [] →
    ∃ s', o.write s bytes = (.error .closed, s') ∧ written s' = written s ∧ room s' = room s ∧
      good s'
  take : ∀ s, good s → 0 < room s → ∀ bytes, bytes ≠ [] →
    ∃ taken s', o.write s bytes = (.ok taken, s') ∧ 0 < taken ∧ taken ≤ bytes.length ∧
      taken ≤ room s ∧ written s' = written s ++ bytes.take taken ∧ room s' = room s - taken ∧
      good s'
  flush : ∀ s, good s →
    ∃ s', o.flush s = (answer, s') ∧ written s' = written s ∧ room s' = room s ∧ good s'

namespace Limited

variable {o : Outlet σ} {good : σ → Prop} {answer : Except WriteError Unit}

/-- Offering bytes again and again fails if and only if there is not room for all of them. -/
theorem writeWithin (h : o.Limited written room good answer) {s : σ} (hgood : good s) {bound : Nat}
    {bytes : List UInt8} (hbound : bytes.length ≤ bound) :
    ∃ s', o.writeWithin bound s bytes =
        (if bytes.length ≤ room s then .ok () else .error .closed, s') ∧
      Took written room s bytes s' ∧ good s' := by
  induction bound generalizing s bytes with
  | zero =>
    obtain rfl : bytes = [] := List.length_eq_zero_iff.mp (Nat.le_zero.mp hbound)
    exact ⟨s, by simp [Outlet.writeWithin], .of_eq rfl rfl (.inl rfl), hgood⟩
  | succ bound ih =>
    cases bytes with
    | nil => exact ⟨s, by simp [Outlet.writeWithin], .of_eq rfl rfl (.inl rfl), hgood⟩
    | cons byte rest =>
      rw [Outlet.writeWithin]
      rcases Nat.eq_zero_or_pos (room s) with hroom | hroom
      · obtain ⟨s', hwrite, hwritten, hleft, hgood'⟩ :=
          h.refuse s hgood hroom _ (List.cons_ne_nil byte rest)
        refine ⟨s', ?_, .of_eq hwritten hleft (.inr hroom), hgood'⟩
        rw [hwrite, if_neg (by simp [hroom])]
      · obtain ⟨taken, s', hwrite, hpos, hlength, hle, hwritten, hleft, hgood'⟩ :=
          h.take s hgood hroom _ (List.cons_ne_nil byte rest)
        obtain ⟨taken, rfl⟩ := Nat.exists_eq_add_one_of_ne_zero (Nat.ne_zero_of_lt hpos)
        have hdrop : ((byte :: rest).drop (taken + 1)).length ≤ bound := by
          rw [List.length_drop]
          simp only [List.length_cons] at hbound ⊢
          omega
        obtain ⟨last, hrest, hlast, hgoodlast⟩ := ih hgood' hdrop
        refine ⟨last, ?_, ?_, hgoodlast⟩
        · -- what remains fits into what is left if all of it fits into the room
          have hfits : ((byte :: rest).drop (taken + 1)).length ≤ room s' ↔
              (byte :: rest).length ≤ room s := by
            rw [hleft, List.length_drop]
            omega
          rw [hwrite]
          exact hrest.trans (by simp only [hfits])
        · have htook := (Took.take hlength hle hwritten hleft).trans hlast
          rwa [List.take_append_drop] at htook

/-- **One line** fails to be written if and only if there is not room for it and its line feed. -/
theorem writeLine (h : o.Limited written room good answer) {s : σ} (hgood : good s)
    (text : String) :
    ∃ s', o.writeLine s text =
        (if (Writer.lines [text]).length ≤ room s then answer else .error .closed, s') ∧
      Took written room s (Writer.lines [text]) s' ∧ good s' := by
  have hline : Writer.lines [text] = Writer.encode text ++ [Writer.lineFeed] := by
    simp [Writer.lines]
  obtain ⟨s₁, hwrite₁, htook₁, hgood₁⟩ :=
    h.writeWithin hgood (Nat.le_refl (Writer.encode text).length)
  rw [hline, List.length_append, List.length_singleton, Outlet.writeLine, writeAll, hwrite₁]
  by_cases htext : (Writer.encode text).length ≤ room s
  · obtain ⟨s₂, hwrite₂, htook₂, hgood₂⟩ :=
      h.writeWithin hgood₁ (Nat.le_refl [Writer.lineFeed].length)
    have htook := htook₁.trans htook₂
    rw [if_pos htext]
    dsimp only
    rw [writeAll, hwrite₂, htook₁.room_eq, List.length_singleton]
    by_cases hfeed : (Writer.encode text).length + 1 ≤ room s
    · obtain ⟨s₃, hflush, hwritten, hleft, hgood₃⟩ := h.flush s₂ hgood₂
      have hall := htook.trans (.of_eq hwritten hleft (.inl rfl))
      rw [List.append_nil] at hall
      rw [if_pos hfeed, if_pos (by omega)]
      exact ⟨s₃, hflush, hall, hgood₃⟩
    · rw [if_neg hfeed, if_neg (by omega)]
      exact ⟨s₂, rfl, htook, hgood₂⟩
  · rw [if_neg htext, if_neg (by omega)]
    exact ⟨s₁, rfl, htook₁.append_of_full (by omega) _, hgood₁⟩

/-- **Any number of lines.** -/
theorem took_sendAll (h : o.Limited written room good answer) {s : σ} (hgood : good s)
    (payloads : List String) :
    Took written room s (Writer.lines payloads) (o.sendAll s payloads) ∧
      good (o.sendAll s payloads) := by
  induction payloads generalizing s with
  | nil => exact ⟨.of_eq rfl rfl (.inl rfl), hgood⟩
  | cons payload rest ih =>
    obtain ⟨s', hline, htook, hgood'⟩ := h.writeLine hgood payload
    obtain ⟨hrest, hlast⟩ := ih hgood'
    rw [sendAll, List.foldl_cons, ← sendAll, hline, ← List.singleton_append, Writer.lines_append]
    exact ⟨htook.trans hrest, hlast⟩

/-- **A line behind others** fails to be written if and only if there is not room for all of
them. -/
theorem writeLine_behind (h : o.Limited written room good answer) {s : σ} (hgood : good s)
    (past : List String) (payload : String) :
    (o.writeLine (o.sendAll s past) payload).1 =
      if room s < (Writer.lines (past ++ [payload])).length then .error .closed else answer := by
  obtain ⟨htook, hgood'⟩ := h.took_sendAll hgood past
  obtain ⟨s', hline, -⟩ := h.writeLine hgood' payload
  have hpos : 0 < (Writer.lines [payload]).length := by simp [Writer.lines]
  rw [hline, htook.room_eq, Writer.lines_append, List.length_append]
  by_cases hfits : room s < (Writer.lines past).length + (Writer.lines [payload]).length
  · rw [if_pos hfits, if_neg (by omega)]
  · rw [if_neg hfits, if_pos (by omega)]

end Limited

end Outlet

/-! ### Writers with limited room -/

namespace Writer

private theorem limit_le (n : Nat) (most : Option Nat) : limit n most ≤ n := by
  cases most with
  | none => exact Nat.le_refl n
  | some most => exact Nat.min_le_left n most

private theorem limit_pos {n : Nat} (hn : 0 < n) {most : Option Nat} (hmost : most ≠ some 0) :
    0 < limit n most := by
  cases most with
  | none => exact hn
  | some most =>
    have hpos : 0 < most := Nat.pos_of_ne_zero fun h => hmost (congrArg some h)
    exact Nat.lt_min.mpr ⟨hn, hpos⟩

/-- A writer with room for so many bytes that has taken certain ones. -/
def limited (chunk : Option Nat) (failsFlush : Bool) (room : Nat) (written : List UInt8) : Writer :=
  { room := some room, chunk := chunk, failsFlush := failsFlush, written := written }

/-- **A writer with limited room** that takes at least one byte at a time. -/
theorem limited_outlet {chunk : Option Nat} (hchunk : chunk ≠ some 0) (failsFlush : Bool) :
    outlet.Limited written (fun w => w.room.getD 0)
      (fun w => ∃ room written, w = limited chunk failsFlush room written)
      (if failsFlush then .error .flushFailed else .ok ()) where
  refuse := by
    rintro _ ⟨room, written, rfl⟩ hroom bytes -
    obtain rfl : room = 0 := hroom
    exact ⟨_, rfl, rfl, rfl, 0, written, rfl⟩
  take := by
    rintro _ ⟨room, written, rfl⟩ hroom bytes hbytes
    have hpos : 0 < room := hroom
    have hlimit := limit_pos (List.length_pos_iff.mpr hbytes) hchunk
    let taken := min (limit bytes.length chunk) room
    refine ⟨taken, limited chunk failsFlush (room - taken) (written ++ bytes.take taken), ?_,
      Nat.lt_min.mpr ⟨hlimit, hpos⟩, Nat.le_trans (Nat.min_le_left _ _) (limit_le _ chunk),
      Nat.min_le_right _ _, rfl, rfl, _, _, rfl⟩
    exact if_neg fun h => Nat.ne_of_gt hpos (Option.some.inj h)
  flush := by
    rintro _ ⟨room, written, rfl⟩
    exact ⟨_, rfl, rfl, rfl, room, written, rfl⟩

/-- The state after some payloads. -/
private theorem sendAll_limited {chunk : Option Nat} (hchunk : chunk ≠ some 0) (failsFlush : Bool)
    (room : Nat) (before : List UInt8) (payloads : List String) :
    (Sink.writer (limited chunk failsFlush room before)).sendAll payloads =
      .writer (limited chunk failsFlush (room - (lines payloads).length)
        (before ++ (lines payloads).take room)) := by
  obtain ⟨htook, room', written', hlast⟩ :=
    (limited_outlet hchunk failsFlush).took_sendAll ⟨room, before, rfl⟩ payloads
  have hroom := htook.room_eq
  have hwritten := htook.written_eq
  rw [hlast] at hroom hwritten
  rw [sendAll_outlet, hlast]
  exact congrArg₂ (fun r b => Sink.writer (limited chunk failsFlush r b)) hroom hwritten

/-- What is logged when a line cannot be written. -/
private theorem log_send (w : Writer) (payload : String) :
    ((Sink.writer w).send payload).1 =
      match (w.writeLine payload).1 with
      | .ok () => []
      | .error e => [.writeFailed e] := by
  rw [Sink.send]
  rcases w.writeLine payload with ⟨_ | _, w'⟩ <;> rfl

end Writer

/-! ### The main statement -/

/-- **What is written is a beginning of the lines.** Let a writer have room for a number of bytes
and take at least one and at most a chunk of them at a time. However it flushes, after any payloads
it has written as much of their lines as there is room for; so once a line is cut, nothing of a
later payload comes behind it. Sending a payload logs a warning if the lines up to this one are more
than there is room for, or else if flushes fail, and nothing otherwise. None of this depends on the
chunk; the second part says the same of every outlet with limited room, which may take more or fewer
bytes from one write to the next. -/
theorem lines_fill_room (room : Nat) (failsFlush : Bool) :
    (∀ chunk : Option Nat, chunk ≠ some 0 →
      let sink : Sink := .writer (Writer.limited chunk failsFlush room [])
      (∀ payloads, sink.sendAll payloads = .writer (Writer.limited chunk failsFlush
          (room - (Writer.lines payloads).length) ((Writer.lines payloads).take room))) ∧
        (∀ past later, room < (Writer.lines past).length →
          sink.sendAll (past ++ later) = sink.sendAll past) ∧
        ∀ past payload, ((sink.sendAll past).send payload).1.map Entry.line =
          if room < (Writer.lines (past ++ [payload])).length then
            ["WARN failed to write contention record error=closed"]
          else if failsFlush then ["WARN failed to write contention record error=flush failed"]
          else []) ∧
      ∀ (σ : Type) (o : Outlet σ) (written : σ → List UInt8) (left : σ → Nat) (good : σ → Prop)
        (answer : Except WriteError Unit), o.Limited written left good answer →
        ∀ s, good s → left s = room → written s = [] →
          (∀ payloads, written (o.sendAll s payloads) = (Writer.lines payloads).take room) ∧
            ∀ past payload, (o.writeLine (o.sendAll s past) payload).1 =
              if room < (Writer.lines (past ++ [payload])).length then .error .closed
              else answer := by
  refine ⟨fun chunk hchunk => ⟨fun payloads => ?_, fun past later hcut => ?_, ?_⟩, ?_⟩
  · exact Writer.sendAll_limited hchunk failsFlush room [] payloads
  · have hroom : room - (Writer.lines past ++ Writer.lines later).length =
        room - (Writer.lines past).length := by
      rw [List.length_append]
      omega
    rw [Writer.sendAll_limited hchunk, Writer.sendAll_limited hchunk, Writer.lines_append, hroom,
      List.take_append_of_le_length (Nat.le_of_lt hcut)]
  · intro past payload
    have hlimited := Writer.limited_outlet hchunk failsFlush
    have hanswer := hlimited.writeLine_behind ⟨room, [], rfl⟩ past payload
    have hroom : (Writer.limited chunk failsFlush room []).room.getD 0 = room := rfl
    rw [Writer.outlet_writeLine, hroom] at hanswer
    rw [Writer.sendAll_outlet, Writer.log_send, hanswer]
    by_cases hcut : room < (Writer.lines (past ++ [payload])).length
    · rw [if_pos hcut, if_pos hcut]
      rfl
    · rw [if_neg hcut, if_neg hcut]
      cases failsFlush <;> rfl
  · intro σ o written left good answer h s hgood hroom hempty
    subst hroom
    refine ⟨fun payloads => ?_, h.writeLine_behind hgood⟩
    rw [(h.took_sendAll hgood payloads).1.written_eq, hempty, List.nil_append]

/-- An outlet that takes one, two and three bytes in turn, as long as there is room. -/
def unsteadyWithin : Outlet (Nat × Nat × List UInt8) where
  write s bytes :=
    if s.2.1 = 0 then (.error .closed, s)
    else
      let taken := min (min bytes.length (s.1 % 3 + 1)) s.2.1
      (.ok taken, (s.1 + 1, s.2.1 - taken, s.2.2 ++ bytes.take taken))
  flush s := (.ok (), s)

private theorem limited_unsteadyWithin :
    unsteadyWithin.Limited (fun s => s.2.2) (fun s => s.2.1) (fun _ => True) (.ok ()) where
  refuse := fun s _ hroom bytes _ => ⟨s, if_pos hroom, rfl, rfl, trivial⟩
  take := by
    intro s _ hroom bytes hbytes
    have hpos := Nat.lt_min.mpr ⟨List.length_pos_iff.mpr hbytes, Nat.succ_pos (s.1 % 3)⟩
    have hlength :=
      Nat.le_trans (Nat.min_le_left _ s.2.1) (Nat.min_le_left bytes.length (s.1 % 3 + 1))
    exact ⟨_, _, if_neg (Nat.ne_of_gt hroom), Nat.lt_min.mpr ⟨hpos, hroom⟩, hlength,
      Nat.min_le_right _ _, rfl, rfl, trivial⟩
  flush := fun s _ => ⟨s, rfl, rfl, rfl, trivial⟩

/-- There is room for five bytes and six are sent. What is missing is the last line feed, both in a
writer that takes two bytes at a time and refuses to flush and in an outlet that takes now fewer and
now more. -/
theorem lines_fill_room_lastLineFeed :
    let sink : Sink := .writer (Writer.limited (some 2) true 5 [])
    sink.sendAll ["ab", "", "c"] =
        .writer (Writer.limited (some 2) true 0 (Writer.encode "ab\n\nc")) ∧
      ((sink.sendAll ["ab"]).send "").1.map Entry.line =
        ["WARN failed to write contention record error=flush failed"] ∧
      ((sink.sendAll ["ab", ""]).send "c").1.map Entry.line =
        ["WARN failed to write contention record error=closed"] ∧
      (unsteadyWithin.sendAll (0, 5, []) ["ab", "", "c"]).2.2 = Writer.encode "ab\n\nc" := by
  intro sink
  obtain ⟨hwriter, houtlet⟩ := lines_fill_room 5 true
  obtain ⟨hstate, -, hlog⟩ := hwriter (some 2) (by decide)
  refine ⟨hstate _, hlog ["ab"] "", hlog ["ab", ""] "c", ?_⟩
  exact (houtlet _ unsteadyWithin _ _ _ _ limited_unsteadyWithin (0, 5, []) trivial rfl rfl).1 _

end Contention
