import Contention.Log

/-!
# Sinks

A `Sink` is handed each payload once. What becomes of the payload afterwards, failures included,
is the sink's business: a channel drops it when nobody receives, a writer gives up on it when it
cannot be written, and either says so in the log.
-/

namespace Contention

open Log (Entry)

/-- Where payloads go. -/
inductive Sink where
  /-- A channel, whether its receiver is there, and what it delivered. -/
  | channel (connected : Bool) (delivered : List String)
  /-- A function that keeps every payload it is called with. -/
  | closure (delivered : List String)
  /-- One line for each payload. -/
  | writer (writer : Writer)
deriving DecidableEq, Repr

namespace Sink

/-- Hand a payload to the sink. -/
def send (s : Sink) (payload : String) : List Entry × Sink :=
  match s with
  | .channel true delivered => ([], .channel true (delivered ++ [payload]))
  | .channel false delivered => ([.receiverGone], .channel false delivered)
  | .closure delivered => ([], .closure (delivered ++ [payload]))
  | .writer w =>
    match w.writeLine payload with
    | (.ok (), w) => ([], .writer w)
    | (.error e, w) => ([.writeFailed e], .writer w)

/-- Take the receiver of a channel away; other sinks have none. -/
def close : Sink → Sink
  | .channel _ delivered => .channel false delivered
  | s => s

/-- What came out of a sink. -/
inductive Output where
  | payloads (payloads : List String)
  | bytes (bytes : List UInt8)
deriving DecidableEq, Repr

/-- What came out so far. -/
def output : Sink → Output
  | .channel _ delivered => .payloads delivered
  | .closure delivered => .payloads delivered
  | .writer w => .bytes w.written

/-- The sink after what came out has been taken away. -/
def drained : Sink → Sink
  | .channel connected _ => .channel connected []
  | .closure _ => .closure []
  | .writer w => .writer { w with written := [] }

end Sink

end Contention
