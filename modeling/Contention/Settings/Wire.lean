import Contention.Json.Schema
import Contention.Settings

/-!
# Settings as JSON

Settings are read from JSON by the rules of `Json.Schema`. Every field may be left out and then
has its default value.
-/

namespace Contention.Settings

open Json

/-- How settings are written. -/
def schema : Schema Settings where
  title := "MonitorConfig"
  blank := {}
  fields :=
    [.of "stack_trace" false boolean fun s b => { s with stackTrace := b },
     .of "sample_rate" false int32 fun s n => { s with sampleRate := n },
     .of "stack_depth" false int32 fun s n => { s with stackDepth := n }]

/-- Read settings from their JSON text. -/
def ofText (text : String) : Except Fault Settings := whole schema.read text

end Contention.Settings
