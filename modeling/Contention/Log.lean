import Contention.Host.Error
import Contention.Metrics
import Contention.Settings
import Contention.Writer

/-!
# The log

Everything that is ever logged is an `Entry`. An entry has a level and a line; a `Filter` says
from which level on entries are shown.
-/

namespace Contention.Log

/-- How serious an entry is. -/
inductive Level where
  | debug
  | info
  | warn
deriving DecidableEq, Repr

/-- The level as a line shows it. -/
def Level.name : Level → String
  | .debug => "DEBUG"
  | .info => "INFO"
  | .warn => "WARN"

/-- Something worth a line in the log. -/
inductive Entry where
  /-- A buffer could not be given back to its host. -/
  | releaseFailed (cause : HostError)
  /-- A record was sent to a channel without a receiver. -/
  | receiverGone
  /-- A record could not be written. -/
  | writeFailed (cause : WriteError)
  | objectUnresolved (cause : HostError)
  | threadInfoUnavailable (cause : HostError)
  | threadIdUnavailable (cause : HostError)
  | stackUnavailable (cause : HostError)
  /-- A stack ends early, after so many resolved frames. -/
  | stackTruncated (cause : HostError) (resolved : Nat)
  | replayStarted (settings : Settings) (events : Nat)
  | replayFinished (metrics : Metrics)
  | tallied (name : String) (count : UInt64)
deriving DecidableEq, Repr

namespace Entry

/-- How serious the entry is. -/
def level : Entry → Level
  | .writeFailed _ => .warn
  | .replayFinished _ => .info
  | .tallied .. => .info
  | _ => .debug

/-- A named value behind the message of a line. -/
def item (name value : String) : String := " " ++ name ++ "=" ++ value

/-- A counter behind the message of a line. -/
def counter (name : String) (value : UInt64) : String := item name (Text.showNat value.toNat)

/-- The line without its level. -/
def text : Entry → String
  | .releaseFailed cause => "unable to release host buffer" ++ item "error" cause.message
  | .receiverGone => "record receiver disconnected, dropping payload"
  | .writeFailed cause => "failed to write contention record" ++ item "error" cause.message
  | .objectUnresolved cause =>
    "unable to resolve contended object type" ++ item "error" cause.message
  | .threadInfoUnavailable cause =>
    "unable to retrieve thread info" ++ item "error" cause.message
  | .threadIdUnavailable cause =>
    "unable to retrieve OS thread id" ++ item "error" cause.message
  | .stackUnavailable cause => "unable to retrieve stack trace" ++ item "error" cause.message
  | .stackTruncated cause resolved =>
    "stack trace truncated" ++ item "error" cause.message ++
      item "resolved" (Text.showNat resolved)
  | .replayStarted settings events =>
    "replaying scenario" ++ item "config" settings.describe ++
      item "events" (Text.showNat events)
  | .replayFinished m =>
    "replay finished" ++ counter "seen" m.eventsSeen ++ counter "sampled" m.eventsSampled ++
      counter "emitted" m.recordsEmitted ++ counter "soft_failures" m.softFailures
  | .tallied name count => "contention tally" ++ item "class" name ++ counter "count" count

/-- The line of an entry. -/
def line (e : Entry) : String := e.level.name ++ " " ++ e.text

end Entry

/-! ### Filters -/

/-- From which level on entries are shown. -/
inductive Filter where
  | off
  | error
  | warn
  | info
  | debug
  | trace
deriving DecidableEq, Repr

/-- Whether a filter shows the entries of a level. -/
def Filter.shows : Filter → Level → Bool
  | .off, _ => false
  | .error, _ => false
  | .warn, level => level == .warn
  | .info, level => level != .debug
  | .debug, _ => true
  | .trace, _ => true

/-- The filter with the given name, in upper or lower case. Directives for single parts of a program
have no name here. -/
def Filter.ofName? (name : String) : Option Filter :=
  match String.ofList (name.toList.map Char.toLower) with
  | "off" => some .off
  | "error" => some .error
  | "warn" => some .warn
  | "info" => some .info
  | "debug" => some .debug
  | "trace" => some .trace
  | _ => none

/-- The lines that a filter shows. -/
def lines (filter : Filter) (entries : List Entry) : List String :=
  (entries.filter fun e => filter.shows e.level).map Entry.line

end Contention.Log
