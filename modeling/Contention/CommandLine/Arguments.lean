import Contention.Text.Numeral

/-!
# Command-line arguments

The program has two levels of arguments: its own, and those behind the command `replay`. Words
are taken from left to right. An option takes its value from behind an equals sign, or from the
next word; in the latter case the option is *pending*, and it is entered only when the next
option or positional word is met or the words are over. So a value that cannot be read is
reported there, after problems that are found on the way.
-/

namespace Contention.CommandLine

/-- Why the words do not make an invocation. -/
inductive Stop where
  /-- There are no arguments at all. -/
  | nothingGiven
  /-- There are arguments but no command. -/
  | noCommand
  /-- The command is not known. -/
  | unknownCommand
  /-- Help was asked for. -/
  | help
  /-- The version was asked for. -/
  | version
  /-- A required argument is missing. -/
  | missingArgument
  /-- An argument is not known. -/
  | unknownArgument
  /-- A value is missing or empty. -/
  | noValue
  /-- A value cannot be read. -/
  | badValue
  /-- A flag that takes no value was given one. -/
  | unneededValue
  /-- An argument was given twice. -/
  | repeated
deriving DecidableEq, Repr

/-- An argument of either level. -/
inductive Argument where
  | options
  | scenario
  | sampleRate
  | depth
  | noStackTrace
  | jobs
  | help
  | version
deriving DecidableEq, Repr

/-- The level of arguments that is being read. -/
inductive Level where
  | program
  | replay
deriving DecidableEq, Repr

/-- The argument with the given long name. -/
def Level.long? : Level → String → Option Argument
  | _, "options" => some .options
  | _, "help" => some .help
  | .program, "version" => some .version
  | .replay, "sample-rate" => some .sampleRate
  | .replay, "depth" => some .depth
  | .replay, "no-stack-trace" => some .noStackTrace
  | .replay, "jobs" => some .jobs
  | _, _ => none

/-- The argument with the given letter. -/
def Level.short? : Level → Char → Option Argument
  | _, 'h' => some .help
  | .program, 'V' => some .version
  | .replay, 'j' => some .jobs
  | _, _ => none

namespace Argument

/-- Whether the argument is followed by a value. -/
def takesValue : Argument → Bool
  | .noStackTrace | .help | .version => false
  | _ => true

/-- Whether a negative number may follow as a word of its own. -/
def takesNegative : Argument → Bool
  | .sampleRate | .depth => true
  | _ => false

end Argument

/-! ### Values -/

/-- What has been given on one level. -/
structure Given where
  options : Option String := none
  scenario : Option String := none
  sampleRate : Option Int := none
  depth : Option Int := none
  noStackTrace : Bool := false
  jobs : Option UInt64 := none
deriving DecidableEq, Repr, Inhabited

/-- Read a value that may be given only once. -/
def once (old : Option α) (read : Option α) : Except Stop (Option α) :=
  match old, read with
  | some _, _ => .error .repeated
  | none, none => .error .badValue
  | none, some value => .ok (some value)

namespace Given

/-- Enter the value of an argument. -/
def enter (g : Given) (a : Argument) (value : String) : Except Stop Given :=
  match a with
  | .options => do .ok { g with options := ← once g.options (some value) }
  | .sampleRate => do
    .ok { g with sampleRate := ← once g.sampleRate (Text.readInt32? value.toList) }
  | .depth => do .ok { g with depth := ← once g.depth (Text.readInt32? value.toList) }
  | .jobs => do .ok { g with jobs := ← once g.jobs (Text.readWord? value.toList) }
  | .scenario => if value = "" then .error .noValue else .ok { g with scenario := some value }
  | _ => .ok g

/-- Act on a flag without value. -/
def raise (g : Given) (a : Argument) : Except Stop Given :=
  match a with
  | .help => .error .help
  | .version => .error .version
  | .noStackTrace =>
    if g.noStackTrace then .error .repeated else .ok { g with noStackTrace := true }
  | _ => .ok g

end Given

/-! ### Words -/

/-- An argument that is not yet entered, with its value if that is known. -/
structure Pending where
  argument : Argument
  value : Option String
deriving DecidableEq, Repr

/-- How far the words of a level have been read. -/
structure Progress where
  given : Given := {}
  pending : Option Pending := none
  /-- Whether `--` has been met: all further words are positional. -/
  trailing : Bool := false
  /-- Whether the positional word of the level has been met. -/
  placed : Bool := false
deriving DecidableEq, Repr

/-- The name and the attached value of a word that starts with two hyphens. -/
def longForm? (word : List Char) : Option (String × Option String) :=
  match word with
  | '-' :: '-' :: rest =>
    match rest.span (· != '=') with
    | (name, []) => some (String.ofList name, none)
    | (name, _ :: value) => some (String.ofList name, some (String.ofList value))
  | _ => none

/-- The letters of a word that starts with one hyphen. -/
def shortForm? : List Char → Option (List Char)
  | '-' :: c :: rest => some (c :: rest)
  | _ => none

/-- Whether letters behind a hyphen look like a number: digits, with at most one point, which is
not the first letter, and after it at most one `e`, neither the first letter nor the last. -/
def looksNumeric (letters : List Char) : Bool :=
  let (mantissa, exponent) := letters.span fun c => c != 'e' && c != 'E'
  let (whole, fraction) := mantissa.span (· != '.')
  whole.all Char.isDigit && fraction.tail.all Char.isDigit && exponent.tail.all Char.isDigit &&
    (fraction.isEmpty || !whole.isEmpty) && (exponent.isEmpty || !mantissa.isEmpty) &&
    exponent.length != 1

namespace Progress

/-- The option that waits for its value to come as the next word. -/
def awaiting (p : Progress) : Option Argument :=
  match p.pending with
  | some ⟨a, none⟩ => some a
  | _ => none

/-- Enter the pending argument. -/
def settle (p : Progress) : Except Stop Progress :=
  match p.pending with
  | none => .ok p
  | some ⟨_, none⟩ => .error .noValue
  | some ⟨a, some value⟩ => do .ok { p with given := ← p.given.enter a value, pending := none }

/-- Make an argument the pending one. -/
def await (p : Progress) (a : Argument) (value : Option String) : Except Stop Progress := do
  .ok { ← p.settle with pending := some ⟨a, value⟩ }

/-- Enter an argument with its attached value. -/
def attach (p : Progress) (a : Argument) (value : String) : Except Stop Progress := do
  let p ← p.settle
  .ok { p with given := ← p.given.enter a value }

/-- Act on a flag. -/
def flag (p : Progress) (a : Argument) : Except Stop Progress := do
  let p ← p.settle
  .ok { p with given := ← p.given.raise a }

/-- Take an argument by its long name. -/
def long (p : Progress) (level : Level) (name : String) (value : Option String) :
    Except Stop Progress :=
  match level.long? name with
  | none => .error .unknownArgument
  | some a =>
    match a.takesValue, value with
    | true, some value => p.attach a value
    | true, none => p.await a none
    | false, some _ => .error .unneededValue
    | false, none => p.flag a

/-- Take arguments by their letters. What follows the letter of an option is its value, with or
without an equals sign. -/
def letters (p : Progress) (level : Level) : List Char → Except Stop Progress
  | [] => .ok p
  | c :: rest =>
    match level.short? c with
    | none => .error .unknownArgument
    | some a =>
      if a.takesValue then
        match rest with
        | [] => p.await a none
        | '=' :: value => p.attach a (String.ofList value)
        | value => p.attach a (String.ofList value)
      else do (← p.flag a).letters level rest

/-- Take a positional word. -/
def place (p : Progress) (level : Level) (word : String) : Except Stop Progress :=
  match level with
  | .program =>
    if p.trailing ∧ (word = "replay" ∨ word = "help") then .error .unknownArgument
    else .error .unknownCommand
  | .replay =>
    if p.placed then .error .unknownArgument
    else do .ok { ← p.await .scenario (some word) with placed := true }

/-- Take a word that is neither a long nor a short form: the value of the option that waits for
one, or a positional word. -/
def plain (p : Progress) (level : Level) (word : String) : Except Stop Progress :=
  match p.awaiting with
  | some a => .ok { p with pending := some ⟨a, some word⟩ }
  | none => p.place level word

/-- Take one word. -/
def word (p : Progress) (level : Level) (word : String) : Except Stop Progress :=
  if p.trailing then p.place level word
  else if word = "--" then .ok { p with trailing := true }
  else
    match longForm? word.toList, shortForm? word.toList with
    | some (name, value), _ => p.long level name value
    | none, some letters =>
      if p.awaiting.any Argument.takesNegative && looksNumeric letters then p.plain level word
      else p.letters level letters
    | none, none => p.plain level word

end Progress

/-! ### Levels -/

/-- What a request for help about the given commands comes to. -/
def helpAbout : List String → Stop
  | [] => .help
  | [command] => if command = "replay" ∨ command = "help" then .help else .unknownCommand
  | _ :: _ :: _ => .unknownCommand

/-- Take the words of the program's own level up to a command; the words behind that are given
beside. -/
def programWords (p : Progress) : List String → Except Stop (Progress × Option (List String))
  | [] => .ok (p, none)
  | w :: rest =>
    if p.trailing = false ∧ p.awaiting = none ∧ w = "replay" then .ok (p, some rest)
    else if p.trailing = false ∧ p.awaiting = none ∧ w = "help" then .error (helpAbout rest)
    else do programWords (← p.word .program w) rest

/-- Take the words behind `replay`. -/
def replayWords (p : Progress) : List String → Except Stop Progress
  | [] => p.settle
  | w :: rest => do replayWords (← p.word .replay w) rest

/-- What the program is to replay, and how. -/
structure Invocation where
  options : Option String := none
  scenario : String
  sampleRate : Option Int := none
  depth : Option Int := none
  noStackTrace : Bool := false
  jobs : UInt64 := 1
deriving DecidableEq, Repr

/-- Read the arguments. An option string behind the command replaces one before it. -/
def parse (args : List String) : Except Stop Invocation := do
  match ← programWords {} args with
  | (own, none) =>
    if (← own.settle).given.options.isNone then .error .nothingGiven else .error .noCommand
  | (own, some rest) =>
    let given := (← replayWords {} rest).given
    match given.scenario with
    | none => .error .missingArgument
    | some scenario =>
      let own := (← own.settle).given
      .ok {
        options := given.options <|> own.options
        scenario := scenario
        sampleRate := given.sampleRate
        depth := given.depth
        noStackTrace := given.noStackTrace
        jobs := given.jobs.getD 1 }

end Contention.CommandLine
