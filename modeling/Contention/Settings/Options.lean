import Contention.Settings.Value

/-!
# Option strings

An option string such as `monitorSampleRate=10, monitorStackTraceDepth=16` is cut at its commas
into pieces; the pieces are trimmed and blank ones dropped. Each remaining piece assigns one
setting: it is split at its first `=`, and both sides are trimmed. Pieces take effect from left
to right until the first one that cannot be read; what was assigned before it stays.
-/

namespace Contention

/-- Why a piece of an option string could not be read. -/
inductive OptionError where
  /-- There is no `=` in the piece. -/
  | malformed (piece : String)
  /-- No setting has this key. -/
  | unknown (key : String)
  /-- The value is not of the kind that the setting takes. -/
  | invalid (key value : String) (expected : ValueKind)
deriving DecidableEq, Repr

/-- The error's text. -/
def OptionError.message : OptionError → String
  | .malformed piece => "malformed option `" ++ piece ++ "`, expected key=value"
  | .unknown key => "unknown monitor option `" ++ key ++ "`"
  | .invalid key value expected =>
    "option `" ++ key ++ "` expects " ++ expected.phrase ++ ", got `" ++ value ++ "`"

/-- The trimmed pieces between the commas, without the blank ones. -/
def optionPieces (options : List Char) : List (List Char) :=
  ((options.splitOn ',').map Text.trim).filter fun piece => !piece.isEmpty

/-- What a trimmed piece assigns. -/
def readPiece (piece : List Char) : Except OptionError Assignment :=
  match piece.span (· != '=') with
  | (_, []) => .error (.malformed (String.ofList piece))
  | (before, _ :: after) =>
    let key := String.ofList (Text.trim before)
    let value := Text.trim after
    match Setting.ofKey? key with
    | none => .error (.unknown key)
    | some setting =>
      match setting.read? value with
      | none => .error (.invalid key (String.ofList value) setting.kind)
      | some assignment => .ok assignment

namespace Settings

/-- Assign piece after piece up to the first that cannot be read. -/
def mergePieces (s : Settings) : List (List Char) → Except OptionError Unit × Settings
  | [] => (.ok (), s)
  | piece :: rest =>
    match readPiece piece with
    | .error e => (.error e, s)
    | .ok assignment => (s.assign assignment).mergePieces rest

/-- Override settings from an option string; what precedes a bad piece stays assigned. -/
def merge (s : Settings) (options : String) : Except OptionError Unit × Settings :=
  s.mergePieces (optionPieces options.toList)

/-- The default settings overridden from an option string. -/
def ofOptions (options : String) : Except OptionError Settings :=
  match ({} : Settings).merge options with
  | (.ok (), s) => .ok s
  | (.error e, _) => .error e

end Settings

end Contention
