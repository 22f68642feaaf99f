import Contention.Sampling
import Contention.Text.Numeral

/-!
# Monitor settings

`Settings` are what a user asks of the monitor; `Settings.apply` pushes them into a `Sampling`
state through its three setters, the switch first, then the rate, then the depth. The rate
comes after the switch, so a rate that is not positive always leaves the switch off and a
positive one always leaves it on.

`Control` collects the ways in which a running monitor's sampling can be changed.
-/

namespace Contention

/-- What a user asks of the monitor. -/
structure Settings where
  /-- The master switch. -/
  stackTrace : Bool := true
  /-- Sample one event in this many; zero or less turns sampling off. -/
  sampleRate : Int := 1
  /-- How many frames to capture for an event. -/
  stackDepth : Int := 0
deriving DecidableEq, Repr, Inhabited

/-- One setting with the value it is to take. -/
inductive Assignment where
  | stackTrace (on : Bool)
  | sampleRate (rate : Int)
  | stackDepth (depth : Int)
deriving DecidableEq, Repr

namespace Settings

/-- The settings after one assignment. -/
def assign (s : Settings) : Assignment → Settings
  | .stackTrace on => { s with stackTrace := on }
  | .sampleRate rate => { s with sampleRate := rate }
  | .stackDepth depth => { s with stackDepth := depth }

/-- Push the settings into `sampling`: switch, rate, depth, in this order. -/
def apply (s : Settings) (sampling : Sampling) : Sampling :=
  ((sampling.setEnabled s.stackTrace).setRate s.sampleRate).setDepth s.stackDepth

/-- The settings as a log line shows them. -/
def describe (s : Settings) : String :=
  "MonitorConfig \x7b stack_trace: " ++ (if s.stackTrace then "true" else "false") ++
    ", sample_rate: " ++ Text.showInt s.sampleRate ++
    ", stack_depth: " ++ Text.showInt s.stackDepth ++ " \x7d"

end Settings

/-- A change to the sampling of a running monitor. -/
inductive Control where
  | enable (on : Bool)
  | rate (rate : Int)
  | depth (depth : Int)
  | settings (settings : Settings)
deriving DecidableEq, Repr

/-- The sampling state after a change. -/
def Sampling.control (s : Sampling) : Control → Sampling
  | .enable on => s.setEnabled on
  | .rate rate => s.setRate rate
  | .depth depth => s.setDepth depth
  | .settings settings => settings.apply s

end Contention
