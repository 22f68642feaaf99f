import Contention.Settings.Value

/-!
# Settings from the environment

Each setting is taken from its environment variable. A variable that is unset, or whose trimmed
value cannot be read, leaves its setting at the default.
-/

namespace Contention.Settings

/-- Take one setting from its variable, if that can be read. -/
def consult (lookup : String → Option String) (s : Settings) (setting : Setting) : Settings :=
  match (lookup setting.environmentName).bind fun v => setting.read? (Text.trim v.toList) with
  | some assignment => s.assign assignment
  | none => s

/-- The settings of an environment, given as a look-up of variables by name. -/
def ofLookup (lookup : String → Option String) : Settings :=
  Setting.all.foldl (consult lookup) {}

end Contention.Settings
