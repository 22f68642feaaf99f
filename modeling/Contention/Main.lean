import Contention.CommandLine.Program

/-!
# Entry point

The outer layer: it collects the environment, reads the scenario's file and writes what the
program has to say.
-/

namespace Contention.CommandLine

/-- The variables that the program looks at. -/
def variableNames : List String := logVariable :: Setting.all.map Setting.environmentName

/-- The number of a system error; some calls report it negated. -/
def systemCode (code : UInt32) : UInt32 := if code < 0x80000000 then code else 0 - code

/-- The cause behind an error of the system. -/
def fileError : IO.Error → FileError
  | .noFileOrDirectory .. => .notFound
  | .inappropriateType _ code details =>
    match systemCode code with
    | 20 => .notDirectory
    | 21 => .isDirectory
    | _ => .other details
  | .invalidArgument _ code details =>
    match systemCode code with
    | 36 => .nameTooLong
    | _ => .other details
  | e => .other (toString e)

/-- The contents of a file. -/
def readFile (path : String) : IO (Except FileError ByteArray) := do
  try
    return .ok (← IO.FS.readBinFile path)
  catch e => return .error (fileError e)

/-- Write what the program has to say and end with its code. -/
def leave (exit : Exit) : IO UInt32 := do
  let stdout ← IO.getStdout
  stdout.write exit.output.toByteArray
  stdout.flush
  exit.messages.forM IO.eprintln
  return exit.code

end Contention.CommandLine

open Contention.CommandLine in
/-- Run the program. -/
def main (args : List String) : IO UInt32 := do
  let found ← variableNames.filterMapM fun name => do
    return (← IO.getEnv name).map fun value => (name, value)
  let env : Environment := fun name => List.lookup name found
  match planOf env args with
  | .error exit => leave exit
  | .ok plan => leave (plan.exit env (← readFile plan.path))
