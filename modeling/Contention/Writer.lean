/-!
# Byte writers

A `Writer` accepts bytes until its room is used up, a bounded number of them at a time, and then
refuses every write. `Writer.writeAll` repeats writes until all bytes are taken or one is
refused; `Writer.writeLine` writes a text, a line feed, and flushes.
-/

namespace Contention

/-- Why a write or a flush was refused. -/
inductive WriteError where
  /-- There is no room left. -/
  | closed
  /-- A write took no byte at all. -/
  | stuck
  /-- The flush was refused. -/
  | flushFailed
deriving DecidableEq, Repr

/-- The error's text. -/
def WriteError.message : WriteError → String
  | .closed => "closed"
  | .stuck => "failed to write whole buffer"
  | .flushFailed => "flush failed"

/-- A writer and what it has taken so far. -/
structure Writer where
  /-- How many bytes are still accepted, `none` for any number. -/
  room : Option Nat := none
  /-- How many bytes one write takes at most, `none` for any number. -/
  chunk : Option Nat := none
  /-- Whether flushes are refused. -/
  failsFlush : Bool := false
  /-- The bytes taken so far. -/
  written : List UInt8 := []
deriving DecidableEq, Repr, Inhabited

namespace Writer

/-- The smaller of a number and a limit, if there is one. -/
def limit (n : Nat) : Option Nat → Nat
  | none => n
  | some most => min n most

/-- Offer bytes once; the answer starts with the number of bytes taken. -/
def write (w : Writer) (bytes : List UInt8) : Except WriteError Nat × Writer :=
  if w.room = some 0 then (.error .closed, w)
  else
    let taken := limit (limit bytes.length w.chunk) w.room
    (.ok taken,
      { w with room := w.room.map (· - taken), written := w.written ++ bytes.take taken })

/-- Offer bytes until all are taken or a write is refused. The first argument bounds the number of
writes. -/
def writeWithin : (bound : Nat) → Writer → List UInt8 → Except WriteError Unit × Writer
  | _, w, [] => (.ok (), w)
  | 0, w, _ :: _ => (.error .stuck, w)
  | bound + 1, w, byte :: rest =>
    match w.write (byte :: rest) with
    | (.error e, w) => (.error e, w)
    | (.ok 0, w) => (.error .stuck, w)
    | (.ok taken, w) => writeWithin bound w ((byte :: rest).drop taken)

/-- Offer bytes until all are taken or a write is refused. Every write that is not refused takes
at least one byte, so there are no more writes than bytes. -/
def writeAll (w : Writer) (bytes : List UInt8) : Except WriteError Unit × Writer :=
  writeWithin bytes.length w bytes

/-- Make sure that what was written has gone out. -/
def flush (w : Writer) : Except WriteError Unit :=
  if w.failsFlush then .error .flushFailed else .ok ()

/-- The bytes of a text in UTF-8. -/
def encode (text : String) : List UInt8 := text.toList.flatMap String.utf8EncodeChar

/-- The byte that ends a line. -/
def lineFeed : UInt8 := 10

/-- Write a text and a line feed, then flush; the first refusal ends it. -/
def writeLine (w : Writer) (text : String) : Except WriteError Unit × Writer :=
  match w.writeAll (encode text) with
  | (.error e, w) => (.error e, w)
  | (.ok (), w) =>
    match w.writeAll [lineFeed] with
    | (.error e, w) => (.error e, w)
    | (.ok (), w) => (w.flush, w)

end Writer

end Contention
