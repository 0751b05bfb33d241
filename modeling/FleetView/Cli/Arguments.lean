/-
Reading all arguments of a call: the options before the name of the task, the
name, and the options behind it. The number of arguments bounds the steps.
-/

import FleetView.Cli.Options

namespace FleetView.Cli

/-- The names of the tasks. -/
inductive TaskName where
  | checkConfig
  | poll
  | run
  deriving DecidableEq, Repr

namespace TaskName

/-- The name itself. -/
def text : TaskName → String
  | .checkConfig => "check-config"
  | .poll => "poll"
  | .run => "run"

/-- The task with a name. -/
def ofText? (text : String) : Option TaskName :=
  [TaskName.checkConfig, .poll, .run].find? (·.text = text)

/-- The task, with an output format for the one that has any. -/
def task (output : OutputFormat) : TaskName → Task
  | .checkConfig => .checkConfig
  | .poll => .poll output
  | .run => .run

end TaskName

/-- The version of the program. -/
def programVersion : String := "0.1.0"

/-- The name of the program. -/
def programName : String := "vantage"

/-- The variable that names the file of the configuration. -/
def configVariable : String := "VANTAGE_CONFIG"

/-- Looks at the value that has been put off, and at the variable where the file
is not given as an option. -/
def close (environment : Environment) (given : Given) : Except Stop Given := do
  let given ← given.settle
  if given.config = none ∧ environment.get? configVariable = some "" then
    .error (.flaw (.badValue Flag.config.name ""))
  else .ok given

/-- Reads the arguments behind the name of a task. -/
def readBehind (task : TaskName) (environment : Environment) : Nat → Given → List String →
    Except Stop Given
  | 0, given, _ | _, given, [] => close environment given
  | fuel + 1, given, argument :: rest =>
    if argument = "--" then
      match rest with
      | [] => close environment given
      | extra :: _ => .error (.flaw (.unexpected extra))
    else if isOption argument.toList then do
      let (given, rest) ←
        takeOption (programName ++ "-" ++ task.text) (task = .poll) given argument rest
      readBehind task environment fuel given rest
    else .error (.flaw (.unexpected argument))

/-- Reads the arguments behind the word that asks for help. -/
def readHelp : List String → Stop
  | [] => .help
  | name :: rest =>
    if name = "help" ∨ (TaskName.ofText? name).isSome then
      match rest with
      | [] => .help
      | extra :: _ => .flaw (.unknownTask extra)
    else .flaw (.unknownTask name)

/-- Reads the arguments up to the name of the task, and those behind it. -/
def readBefore (environment : Environment) : Nat → Given → List String →
    Except Stop (Given × TaskName × Given)
  | 0, _, _ => .error (.flaw .noTask)
  | _, given, [] => do
    let _ ← close environment given
    .error (.flaw .noTask)
  | fuel + 1, given, argument :: rest =>
    if argument = "--" then
      match rest with
      | [] => .error (.flaw .noTask)
      | extra :: _ => .error (.flaw (.unexpected extra))
    else if isOption argument.toList then do
      let (given, rest) ← takeOption programName false given argument rest
      readBefore environment fuel given rest
    else if argument = "help" then .error (readHelp rest)
    else match TaskName.ofText? argument with
      | none => .error (.flaw (.unknownTask argument))
      | some task => do
        let behind ← readBehind task environment (rest.length + 1) .nothing rest
        let before ← close environment given
        .ok (before, task, behind)

/-- What a call of the program asks for. -/
def parse (arguments : List String) (environment : Environment) : Except Stop (Task × Options) := do
  let (before, task, behind) ←
    readBefore environment (arguments.length + 1) .nothing arguments
  .ok
    (task.task (behind.output.getD .table),
      { config := (behind.config.or before.config).or (environment.get? configVariable)
        verbosity := if 0 < behind.verbosity then behind.verbosity else before.verbosity
        jsonLogs := behind.jsonLogs || before.jsonLogs
        color := (behind.color.or before.color).getD .auto })

end FleetView.Cli
