/-
The program as it runs: it gathers what a call finds around it, has the library
decide, and writes what comes of it. The build has no sockets, so every request
ends without an answer.
-/

import FleetView.Cli.Program

namespace FleetView.Cli

/-! ### Gathering -/

/-- The bytes between zeros. -/
def cutAtZeros : List UInt8 → List (List UInt8)
  | [] => [[]]
  | 0 :: rest => [] :: cutAtZeros rest
  | byte :: rest =>
    match cutAtZeros rest with
    | [] => [[byte]]
    | part :: parts => (byte :: part) :: parts

/-- The variable that an assignment makes. -/
def variableOf (assignment : String) : Option (String × String) :=
  let name := assignment.toList.takeWhile (· ≠ '=')
  if name = [] then none
  else some (String.ofList name, String.ofList (assignment.toList.drop (name.length + 1)))

/-- The variables of the environment. -/
def readEnvironment : IO Environment := do
  let bytes ← IO.FS.readBinFile "/proc/self/environ"
  return (cutAtZeros bytes.toList).filterMap fun part => variableOf (Text.Utf8.decodeLossy part)

/-- What there is under a path. -/
def look (path : String) : IO Place := do
  try
    let bytes ← IO.FS.readBinFile path
    return .file (.ok bytes.toList)
  catch problem =>
    match problem with
    | .noFileOrDirectory .. => return .vacant "No such file or directory (os error 2)"
    | .inappropriateType .. => return .special (.error "Is a directory (os error 21)")
    | .permissionDenied .. => return .file (.error "Permission denied (os error 13)")
    | other => return .file (.error (toString other))

/-- Some places under their paths. -/
def filesOf (held : List (String × Place)) : Files := fun path =>
  match held.find? (·.1 = path) with
  | some (_, place) => place
  | none => .vacant "No such file or directory (os error 2)"

/-- The number that a text starts with. -/
def leadingNumber (text : List Char) : Nat :=
  Toml.digitsValue 10 (text.takeWhile Char.isDigit)

/-- The present time: when the system was started, and how long it has run. -/
def readTime : IO Instant := do
  let started ← IO.FS.readFile "/proc/stat"
  let running ← IO.FS.readFile "/proc/uptime"
  let line := (Text.splitOn '\n' started.toList).find? fun line => "btime ".toList.isPrefixOf line
  return ⟨leadingNumber ((line.getD []).drop 6) + leadingNumber running.toList, 0⟩

/-- The networks of a build without sockets. -/
def noNetworks : Networks := fun _ _ => .closed

/-! ### Writing -/

/-- A field as it is shown on a line of the log. -/
def fieldText (field : String × Json) : String := field.1 ++ "=" ++ field.2.compact

/-- A record as a line of the log. -/
def logLine (jsonLogs : Bool) (now : Instant) (record : LogRecord) : String :=
  if jsonLogs then
    (Json.object
      [("timestamp", .string now.text), ("level", .string record.level.name),
       ("fields", record.fieldsJson)]).compact
  else
    Text.joinWith " "
      ([now.text, record.level.name, record.message] ++ record.fields.map fieldText)

/-- Writes the records that a filter keeps. -/
def writeLog (options : Options) (filter : LogFilter) (now : Instant) (log : List LogRecord) :
    IO Unit := do
  let stream ← IO.getStderr
  for record in log.filter filter.keeps do
    stream.putStrLn (logLine options.jsonLogs now record)
  stream.flush

/-- Polls and reports for as long as the program runs. -/
def keepPolling (options : Options) (filter : LogFilter) (dashboard : Dashboard) : IO Unit := do
  let interval := dashboard.setup.policy.refreshInterval
  let now ← readTime
  let mut current := dashboard.start noNetworks now
  writeLog options filter now <|
    pollLog current.backends noNetworks current.snapshot ++ [beginningLog interval] ++
      healthLog current.snapshot ++ healthLog current.snapshot
  repeat
    IO.sleep (if interval.isZero then 1000 else UInt32.ofNat (min interval.milliseconds 4000000000))
    if !interval.isZero then
      let now ← readTime
      current := current.pollOnce noNetworks now
      writeLog options filter now <|
        pollLog current.backends noNetworks current.snapshot ++ healthLog current.snapshot

/-- The files that a call reads: the configuration at a path, and the certificates that it
names. -/
def gatherFiles (path : String) (environment : Environment) : IO Files := do
  let configuration := (path, ← look path)
  let loaded := (Config.ofFile (filesOf [configuration]) path environment).bind fun config =>
    config.setup environment
  let mut held := [configuration]
  if let .ok setup := loaded then
    for datacenter in setup.registry.datacenters do
      if let .ca certificate := datacenter.tls then
        held := (certificate, ← look certificate) :: held
  return filesOf held

end FleetView.Cli

open FleetView FleetView.Cli in
/-- Runs the program on its arguments. -/
def main (arguments : List String) : IO UInt32 := do
  let environment ← readEnvironment
  let now ← readTime
  let stdout ← IO.getStdout
  let bare : Surroundings :=
    { environment, home := none, files := filesOf [], networks := noNetworks, now,
      style := .standard, terminal := ← stdout.isTty, reports := 0 }
  let files ←
    match Cli.parse arguments environment with
    | .ok (_, options) => gatherFiles (options.config.getD bare.standardPath) environment
    | .error _ => pure bare.files
  let around : Surroundings := { bare with files }
  match Cli.parse arguments environment with
  | .ok (.run, options) =>
    match load options around with
    | .ok setup =>
      match Dashboard.build setup files with
      | .ok dashboard =>
        keepPolling options (LogFilter.ofCall options.verbosity environment) dashboard
      | .error _ => pure ()
    | .error _ => pure ()
  | _ => pure ()
  let ended := call arguments around
  if let .ok (_, options) := Cli.parse arguments environment then
    writeLog options ⟨[.upTo 5]⟩ now ended.log
  stdout.putStr ended.output
  stdout.flush
  if let some complaint := ended.complaint then (← IO.getStderr).putStrLn complaint
  return UInt32.ofNat ended.exitStatus
