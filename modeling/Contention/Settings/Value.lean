import Contention.Settings
import Contention.Text.Blank
import Contention.Text.Numeral

/-!
# Values of single settings

Three settings can be named from outside: each has a key in option strings and a name in the
environment, and each takes a switch word or an integer of 32 bits. `Setting.read?` is the one
place where a value's text becomes an `Assignment`.
-/

namespace Contention

/-- What kind of value a setting takes. -/
inductive ValueKind where
  | boolean
  | integer
deriving DecidableEq, Repr

/-- The kind as an error message names it. -/
def ValueKind.phrase : ValueKind → String
  | .boolean => "a boolean"
  | .integer => "an integer"

/-- A setting that can be named from outside. -/
inductive Setting where
  | stackTrace
  | sampleRate
  | stackDepth
deriving DecidableEq, Repr

/-- The words that turn a switch on. -/
def onWords : List String := ["true", "yes", "on", "1"]

/-- The words that turn a switch off. -/
def offWords : List String := ["false", "no", "off", "0"]

/-- Read a switch word in upper or lower case, blanks around it allowed. Only ASCII letters
have a lower-case form among the letters of these words, so folding ASCII letters is enough. -/
def readSwitch? (value : List Char) : Option Bool :=
  let word := String.ofList ((Text.trim value).map Char.toLower)
  if word ∈ onWords then some true else if word ∈ offWords then some false else none

namespace Setting

/-- All settings, in the order in which the environment is consulted. -/
def all : List Setting := [.stackTrace, .sampleRate, .stackDepth]

/-- The key of the setting in an option string. -/
def key : Setting → String
  | .stackTrace => "monitorStackTrace"
  | .sampleRate => "monitorSampleRate"
  | .stackDepth => "monitorStackTraceDepth"

/-- The environment variable of the setting. -/
def environmentName : Setting → String
  | .stackTrace => "LOCKWATCH_STACK_TRACE"
  | .sampleRate => "LOCKWATCH_SAMPLE_RATE"
  | .stackDepth => "LOCKWATCH_STACK_DEPTH"

/-- The kind of value that the setting takes. -/
def kind : Setting → ValueKind
  | .stackTrace => .boolean
  | .sampleRate => .integer
  | .stackDepth => .integer

/-- The setting with the given key. -/
def ofKey? (key : String) : Option Setting := all.find? fun s => s.key == key

/-- The assignment that a trimmed value text makes to the setting. -/
def read? (s : Setting) (value : List Char) : Option Assignment :=
  match s with
  | .stackTrace => (readSwitch? value).map .stackTrace
  | .sampleRate => (Text.readInt32? value).map .sampleRate
  | .stackDepth => (Text.readInt32? value).map .stackDepth

end Setting

end Contention
