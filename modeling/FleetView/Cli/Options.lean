/-
What a call of the program asks for, read off its arguments. Options that hold
for every task may stand before the name of the task and behind it; behind it
they count more. An option may be given once on either side. A value that stands
apart from its option is looked at when the next option on the same side comes,
or at the end.
-/

import FleetView.Config.Variable

namespace FleetView.Cli

/-- How the outcome of a poll is shown. -/
inductive OutputFormat where
  | table
  | json
  deriving DecidableEq, Repr

/-- When colors are used. -/
inductive ColorMode where
  /-- On a terminal, unless the environment speaks against it. -/
  | auto
  | always
  | never
  deriving DecidableEq, Repr

/-- What is to be done. -/
inductive Task where
  /-- Checks the configuration and lists what it defines. -/
  | checkConfig
  /-- Polls once and reports. -/
  | poll (output : OutputFormat)
  /-- Polls until it is interrupted. -/
  | run
  deriving DecidableEq, Repr

/-- The options that hold for every task. -/
structure Options where
  config : Option String
  verbosity : Nat
  jsonLogs : Bool
  color : ColorMode
  deriving DecidableEq, Repr

/-- Why arguments make no sense. -/
inductive UsageFlaw where
  | noTask
  | unknownTask (name : String)
  | unexpected (argument : String)
  | noValue (option : String)
  | surplusValue (option value : String)
  | badValue (option value : String)
  | repeated (option : String)
  deriving DecidableEq, Repr

/-- The wording of a flaw. -/
def UsageFlaw.message : UsageFlaw → String
  | .noTask => "'vantage' requires a subcommand but one was not provided"
  | .unknownTask name => "unrecognized subcommand '" ++ name ++ "'"
  | .unexpected argument => "unexpected argument '" ++ argument ++ "' found"
  | .noValue option => "a value is required for '" ++ option ++ "' but none was supplied"
  | .surplusValue option value => "unexpected value '" ++ value ++ "' for '" ++ option ++ "' found"
  | .badValue option value => "invalid value '" ++ value ++ "' for '" ++ option ++ "'"
  | .repeated option => "the argument '" ++ option ++ "' cannot be used multiple times"

/-- What ends the reading of arguments before a task is known. -/
inductive Stop where
  | flaw (flaw : UsageFlaw)
  /-- The version is asked for, of the program or of a task. -/
  | version (name : String)
  | help
  deriving DecidableEq, Repr

/-! ### Single options -/

/-- The options. -/
inductive Flag where
  | config
  | color
  | output
  | verbose
  | jsonLogs
  | help
  | version
  deriving DecidableEq, Repr

namespace Flag

/-- The long name of an option. -/
def name : Flag → String
  | .config => "--config"
  | .color => "--color"
  | .output => "--output"
  | .verbose => "--verbose"
  | .jsonLogs => "--json-logs"
  | .help => "--help"
  | .version => "--version"

/-- Whether an option has a value. -/
def hasValue : Flag → Bool
  | .config | .color | .output => true
  | _ => false

/-- The option with a long name; `output` says whether the task has an output
format. -/
def ofLong? (output : Bool) (name : String) : Option Flag :=
  [Flag.config, .color, .output, .verbose, .jsonLogs, .help, .version].find? fun flag =>
    decide (flag.name = name) && (output || flag != .output)

/-- The option with a short name. -/
def ofShort? (output : Bool) (char : Char) : Option Flag :=
  match char with
  | 'c' => some .config
  | 'v' => some .verbose
  | 'h' => some .help
  | 'V' => some .version
  | 'o' => if output then some .output else none
  | _ => none

end Flag

/-- The options given on one side of the task's name. -/
structure Given where
  config : Option String
  color : Option ColorMode
  output : Option OutputFormat
  verbosity : Nat
  jsonLogs : Bool
  /-- An option with a value that has not been looked at. -/
  pending : Option (Flag × String)

namespace Given

/-- No options. -/
def nothing : Given := ⟨none, none, none, 0, false, none⟩

/-- Puts a value in place, unless there is one. -/
def fill {α : Type} (flag : Flag) (held : Option α) (value : String) (read : Option α) :
    Except Stop (Option α) :=
  if held.isSome then .error (.flaw (.repeated flag.name))
  else match read with
    | some found => .ok (some found)
    | none => .error (.flaw (.badValue flag.name value))

/-- Takes the value of an option. -/
def give (given : Given) (flag : Flag) (value : String) : Except Stop Given :=
  match flag with
  | .config => do
    let config ← fill flag given.config value (if value = "" then none else some value)
    .ok { given with config }
  | .color => do
    let read : Option ColorMode :=
      match value with
      | "auto" => some .auto
      | "always" => some .always
      | "never" => some .never
      | _ => none
    let color ← fill flag given.color value read
    .ok { given with color }
  | .output => do
    let read : Option OutputFormat :=
      match value with
      | "table" => some .table
      | "json" => some .json
      | _ => none
    let output ← fill flag given.output value read
    .ok { given with output }
  | _ => .ok given

/-- Looks at the value that has been put off. -/
def settle (given : Given) : Except Stop Given :=
  match given.pending with
  | some (flag, value) => { given with pending := none }.give flag value
  | none => .ok given

/-- Takes an option without a value; `program` is what the version is of. -/
def flip (program : String) (given : Given) (flag : Flag) : Except Stop Given := do
  let given ← given.settle
  match flag with
  | .verbose => .ok { given with verbosity := given.verbosity + 1 }
  | .jsonLogs =>
    if given.jsonLogs then .error (.flaw (.repeated flag.name))
    else .ok { given with jsonLogs := true }
  | .help => .error .help
  | .version => .error (.version program)
  | _ => .ok given

end Given

/-! ### Arguments that are options -/

/-- Whether an argument is an option or several of them. -/
def isOption : List Char → Bool
  | '-' :: _ :: _ => true
  | _ => false

/-- Takes the argument behind an option as its value. -/
def takeValue (given : Given) (flag : Flag) (rest : List String) :
    Except Stop (Given × List String) := do
  let given ← given.settle
  match rest with
  | value :: rest =>
    if isOption value.toList then .error (.flaw (.noValue flag.name))
    else .ok ({ given with pending := some (flag, value) }, rest)
  | [] => .error (.flaw (.noValue flag.name))

/-- Takes an argument that starts with two hyphens. -/
def takeLong (program : String) (output : Bool) (given : Given) (argument : String)
    (rest : List String) : Except Stop (Given × List String) :=
  let name := argument.toList.takeWhile (· ≠ '=')
  let value := (argument.toList.drop name.length).drop 1
  let attached := name.length < argument.toList.length
  match Flag.ofLong? output (String.ofList name) with
  | none => .error (.flaw (.unexpected argument))
  | some flag =>
    if flag.hasValue then
      if attached then do
        let given ← given.settle
        let given ← given.give flag (String.ofList value)
        .ok (given, rest)
      else takeValue given flag rest
    else if attached then .error (.flaw (.surplusValue flag.name (String.ofList value)))
    else (given.flip program flag).map fun given => (given, rest)

/-- Takes the short options in one argument, behind its hyphen. -/
def takeShort (program : String) (output : Bool) (given : Given) (rest : List String) :
    List Char → Except Stop (Given × List String)
  | [] => .ok (given, rest)
  | char :: chars =>
    match Flag.ofShort? output char with
    | none => .error (.flaw (.unexpected (String.ofList ['-', char])))
    | some flag =>
      if flag.hasValue then
        match chars with
        | [] => takeValue given flag rest
        | '=' :: value | value => do
          let given ← given.settle
          let given ← given.give flag (String.ofList value)
          .ok (given, rest)
      else do
        let given ← given.flip program flag
        takeShort program output given rest chars

/-- Takes an argument that is an option. -/
def takeOption (program : String) (output : Bool) (given : Given) (argument : String)
    (rest : List String) : Except Stop (Given × List String) :=
  match argument.toList with
  | '-' :: '-' :: _ => takeLong program output given argument rest
  | _ :: chars => takeShort program output given rest chars
  | [] => .ok (given, rest)

end FleetView.Cli
