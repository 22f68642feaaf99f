import Contention.CommandLine.Arguments
import Contention.CommandLine.Files
import Contention.Scenario.Wire
import Contention.Settings.Environment
import Contention.Settings.Options
import Contention.Station

/-!
# The program

`planOf` turns arguments and environment into a plan: which scenario to replay under which
settings. `Plan.run` carries it out on the contents of the scenario's file. The settings are
layered: the environment first, over it the option string, over that the single flags.

A run fails before any event is processed or not at all. The option string is checked first,
then the file is read, then its text is decoded, then its events are checked.
-/

namespace Contention.CommandLine

/-! ### Failures -/

/-- Why a run failed. -/
inductive Failure where
  | options (cause : OptionError)
  | unreadable (path : String) (cause : FileError)
  | invalid (cause : Json.Fault)
  | dangling (path : String) (cause : Scenario.Dangling)
deriving DecidableEq, Repr

/-- The failure's text, from the outermost circumstance to the innermost cause. What is wrong with
a scenario's text is told by both of them. -/
def Failure.message : Failure → String
  | .options cause => "invalid --options value: " ++ cause.message
  | .unreadable path cause => "failed to read scenario " ++ path ++ ": " ++ cause.message
  | .invalid cause => Scenario.faultMessage cause ++ ": " ++ cause.message
  | .dangling path cause => "failed to prepare scenario " ++ path ++ ": " ++ cause.message

/-! ### Plans -/

/-- The environment, as a look-up of variables by name. -/
abbrev Environment := String → Option String

/-- The variable that holds the log filter. -/
def logVariable : String := "LOCKWATCH_LOG"

/-- The log filter of an environment; warnings are shown if nothing else is asked for. Only the name
of a level is taken for a filter, a list of directives is not. -/
def logFilter (env : Environment) : Log.Filter :=
  ((env logVariable).bind Log.Filter.ofName?).getD .warn

/-- The settings of an invocation: its flags over its option string over the environment. -/
def Invocation.settings (i : Invocation) (env : Environment) : Except OptionError Settings :=
  let base := Settings.ofLookup env
  match i.options.elim (.ok (), base) base.merge with
  | (.error e, _) => .error e
  | (.ok (), s) => .ok {
      stackTrace := if i.noStackTrace then false else s.stackTrace
      sampleRate := i.sampleRate.getD s.sampleRate
      stackDepth := i.depth.getD s.stackDepth }

/-- What to replay, and how. -/
structure Plan where
  path : String
  settings : Settings
  /-- How many workers were asked for. `Plan.replay` is what **one** worker does, which observes the
  events one after the other; with several of them the order of the events is open. -/
  jobs : UInt64
deriving DecidableEq, Repr

/-- The plan of an invocation. -/
def Invocation.plan (i : Invocation) (env : Environment) : Except Failure Plan :=
  match i.settings env with
  | .error e => .error (.options e)
  | .ok settings => .ok { path := i.scenario, settings := settings, jobs := i.jobs }

/-- What a successful run leaves behind. -/
structure Replayed where
  /-- The bytes on the standard output. -/
  output : List UInt8
  log : List Log.Entry
deriving DecidableEq, Repr

/-- The host of the scenario in a file. -/
def Plan.host (p : Plan) (contents : Except FileError ByteArray) : Except Failure Host :=
  match decodeFile contents with
  | .error e => .error (.unreadable p.path e)
  | .ok text =>
    match Scenario.ofText text with
    | .error fault => .error (.invalid fault)
    | .ok scenario =>
      match Host.ofScenario scenario with
      | .error d => .error (.dangling p.path d)
      | .ok h => .ok h

/-- Replay the events of a host, one after the other, as a single worker does. -/
def Plan.replay (p : Plan) (h : Host) : Replayed :=
  let start : Station :=
    { monitor := { host := h, sampling := p.settings.apply {} }, sink := .writer {} }
  let last := start.replay
  let monitor := last.monitor
  { output := match last.sink.output with
      | .bytes bytes => bytes
      | .payloads _ => []
    log := [Log.Entry.replayStarted p.settings h.events.length] ++ last.log ++
      [.replayFinished monitor.metrics] ++
      monitor.tally.snapshot.map fun (name, count) => .tallied name count }

/-- Carry a plan out on the contents of its file. -/
def Plan.run (p : Plan) (contents : Except FileError ByteArray) : Except Failure Replayed :=
  (p.host contents).map p.replay

/-! ### Exits -/

/-- How the program ends. -/
structure Exit where
  code : UInt32
  output : List UInt8 := []
  /-- The lines on the standard error output. -/
  messages : List String := []
deriving DecidableEq, Repr

/-- The line that tells the version. -/
def versionLine : String := "lockwatch 0.1.0"

/-- The line that tells the usage. -/
def usageLine : String := "Usage: lockwatch [--options <options>] replay <SCENARIO>"

/-- The end of a program whose arguments make no invocation. -/
def Stop.exit : Stop → Exit
  | .version => { code := 0, output := Writer.encode (versionLine ++ "\n") }
  | .help => { code := 0, output := Writer.encode (usageLine ++ "\n") }
  | _ => { code := 2, messages := [usageLine] }

/-- The end of a program that failed. -/
def Failure.exit (f : Failure) : Exit := { code := 1, messages := ["Error: " ++ f.message] }

/-- The end of a program that has replayed its scenario. -/
def Replayed.exit (r : Replayed) (filter : Log.Filter) : Exit :=
  { code := 0, output := r.output, messages := Log.lines filter r.log }

/-- The plan behind arguments, or the end of the program without one. -/
def planOf (env : Environment) (args : List String) : Except Exit Plan :=
  match parse args with
  | .error stop => .error stop.exit
  | .ok invocation =>
    match invocation.plan env with
    | .error failure => .error failure.exit
    | .ok plan => .ok plan

/-- The end of a program that carries out a plan. -/
def Plan.exit (p : Plan) (env : Environment) (contents : Except FileError ByteArray) : Exit :=
  match p.run contents with
  | .error failure => failure.exit
  | .ok replayed => replayed.exit (logFilter env)

/-- Run the program in an environment with the given files. -/
def run (env : Environment) (files : String → Except FileError ByteArray) (args : List String) :
    Exit :=
  match planOf env args with
  | .error exit => exit
  | .ok plan => plan.exit env (files plan.path)

end Contention.CommandLine
