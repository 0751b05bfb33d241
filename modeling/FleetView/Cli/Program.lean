/-
The program: from arguments and surroundings to what it writes, the log it keeps
and the status it exits with. Everything outside is a parameter, so a call is a
function of what it is given.
-/

import FleetView.Cli.Arguments
import FleetView.Cli.Filter
import FleetView.Cli.Report

namespace FleetView.Cli

/-- What a call finds around it. -/
structure Surroundings where
  environment : Environment
  /-- The home folder of the account, if the system tells one. -/
  home : Option String
  files : Files
  networks : Networks
  now : Instant
  style : TimeStyle
  /-- Whether the output goes to a terminal. -/
  terminal : Bool
  /-- How many reports are made before an interrupt comes. -/
  reports : Nat

/-- The path of something within a folder. -/
def inFolder (folder name : String) : String :=
  match folder.toList.getLast? with
  | none => name
  | some last => if last = '/' then folder ++ name else folder ++ "/" ++ name

/-- Where a configuration is looked for that is not named. The home folder is the one that the
environment tells, unless it tells none, and that of the account otherwise. -/
def Surroundings.standardPath (around : Surroundings) : String :=
  let told := around.environment.get? "HOME"
  let folder :=
    match (told.filter (· ≠ "")).or around.home with
    | none => inFolder (told.getD ".") ".config"
    | some home =>
      match around.environment.get? "XDG_CONFIG_HOME" with
      | some folder =>
        if folder.toList.head? = some '/' then folder else inFolder home ".config"
      | none => inFolder home ".config"
  inFolder (inFolder folder "vantage") "config.toml"

/-! ### Failures -/

/-- Why a task failed. -/
inductive TaskFailure where
  | noConfig (path : String)
  | config (reason : String)
  | unreachable (count total : Nat)
  | connectionFailed (datacenter reason : String)
  | notFound (kind key : String)
  | rejected (datacenter reason : String)
  | validation (reason : String)
  | internal (reason : String)
  deriving DecidableEq, Repr

namespace TaskFailure

/-- The failure of a configuration. -/
def ofConfig : ConfigFlaw → TaskFailure
  | .noFile path => .noConfig path
  | flaw => .config flaw.message

/-- The failure of a dashboard. -/
def ofFailure : Failure → TaskFailure
  | .config reason => .config reason
  | .unreachable datacenter reason => .connectionFailed datacenter reason
  | .rejected datacenter reason => .rejected datacenter reason
  | .notFound kind key => .notFound kind key
  | .invalidPayload reason => .validation reason
  | .internal reason => .internal reason

/-- The wording of a failure. -/
def message : TaskFailure → String
  | .noConfig _ => "Configuration file not found"
  | .config reason => "Invalid configuration: " ++ reason
  | .unreachable count total =>
    Nat.repr count ++ " of " ++ Nat.repr total ++ " datacenter(s) unreachable"
  | .connectionFailed datacenter reason =>
    "Datacenter '" ++ datacenter ++ "' is unreachable: " ++ reason
  | .notFound kind key => kind ++ " '" ++ key ++ "' not found"
  | .rejected datacenter reason =>
    "Datacenter '" ++ datacenter ++ "' rejected the request: " ++ reason
  | .validation reason => "Invalid request: " ++ reason
  | .internal reason => "Internal error: " ++ reason

/-- What may help, if something does. -/
def help : TaskFailure → Option String
  | .noConfig path =>
    some ("Create one, pass --config <path>, or set VANTAGE_CONFIG.\nExpected at: " ++ path)
  | .config _ => some "Run: vantage check-config to validate the file."
  | .unreachable _ _ =>
    some "Check the datacenter URLs and credentials; rerun with -v for details."
  | .connectionFailed _ _ | .notFound _ _ | .rejected _ _ | .validation _ | .internal _ => none

/-- The name that stands for a failure. -/
def code : TaskFailure → String
  | .noConfig _ => "vantage::no_config"
  | .config _ => "vantage::config"
  | .unreachable _ _ => "vantage::unreachable"
  | .connectionFailed _ _ => "vantage::connection_failed"
  | .notFound _ _ => "vantage::not_found"
  | .rejected _ _ => "vantage::rejected"
  | .validation _ => "vantage::validation"
  | .internal _ => "vantage::internal"

/-- The status that the program exits with. -/
def exitStatus : TaskFailure → Nat
  | .noConfig _ | .config _ => 3
  | .unreachable _ _ | .connectionFailed _ _ => 7
  | .notFound _ _ => 4
  | .validation _ => 2
  | .rejected _ _ | .internal _ => 1

/-- What is said about a failure. -/
def complaint (failure : TaskFailure) : String :=
  String.intercalate "\n\n" ([failure.code, failure.message] ++ failure.help.toList)

end TaskFailure

/-- What became of a task. -/
structure Done where
  /-- The blocks of text that were written. -/
  output : List String
  failure : Option TaskFailure
  /-- All records, before a filter is put to them. -/
  log : List LogRecord

/-! ### The log of a dashboard -/

/-- The records of the requests that a poll makes of one datacenter. -/
def requestLog (backend : Backend) : List LogRecord :=
  ⟨.debug, "vantage_core::poller", "polling datacenter", [("datacenter", .string backend.name)]⟩ ::
    Connection.collections.filterMap fun collection =>
      (backend.connection.base.descend [collection]).toOption.map fun url =>
        ⟨.debug, "vantage_api::client", "GET " ++ url.text, []⟩

/-- The records of objects that are left out because their key repeats. -/
def repetitionLog (networks : Networks) (backend : Backend) : List LogRecord :=
  match backend.poll (networks backend.name) with
  | .ok fetched => (Collections.repeatedKeys fetched).map fun (kind, key) =>
      ⟨.warn, "vantage_core::store::collections",
        "dropping duplicate object from datacenter response",
        [("datacenter", .string backend.name), ("kind", .string kind.name), ("key", .string key)]⟩
  | .error _ => []

/-- The record of a poll that failed. -/
def failureLog (networks : Networks) (backend : Backend) : List LogRecord :=
  match backend.poll (networks backend.name) with
  | .ok _ => []
  | .error reason =>
    [⟨.warn, "vantage_core::poller", "datacenter poll failed",
      [("datacenter", .string backend.name), ("error", .string reason)]⟩]

/-- The records of a poll that has led to a snapshot. -/
def pollLog (backends : List Backend) (networks : Networks) (snapshot : Snapshot) :
    List LogRecord :=
  let metrics := snapshot.metrics
  backends.flatMap requestLog ++ backends.flatMap (repetitionLog networks) ++
    backends.flatMap (failureLog networks) ++
    [⟨.info, "vantage_core::poller", "snapshot built",
      [("generation", .nat snapshot.generation),
       ("reachable", .nat metrics.datacentersReachable),
       ("total", .nat metrics.datacentersTotal),
       ("clients", .nat snapshot.merged.clients.length),
       ("events", .nat snapshot.merged.events.length)]⟩]

/-- The records of a report on a snapshot. -/
def healthLog (snapshot : Snapshot) : List LogRecord :=
  let metrics := snapshot.metrics
  let down := snapshot.health.filter fun status => !status.isReachable
  down.map (fun status =>
    ⟨.warn, "vantage::commands::run", "datacenter unreachable",
      [("datacenter", .string status.name), ("stale", .bool status.stale),
       ("error", .string (status.lastError.getD ""))]⟩) ++
    [⟨.info, "vantage::commands::run", "snapshot published",
      [("generation", .nat snapshot.generation),
       ("reachable", .nat metrics.datacentersReachable),
       ("total", .nat metrics.datacentersTotal),
       ("objects", .nat (metrics.objects.foldl (fun sum entry => sum + entry.2) 0))]⟩]

/-! ### Tasks -/

/-- Loads the configuration that a call is about. -/
def load (options : Options) (around : Surroundings) : Except TaskFailure Setup :=
  let path := options.config.getD around.standardPath
  ((Config.ofFile around.files path around.environment).bind fun config =>
    config.setup around.environment).mapError TaskFailure.ofConfig

/-- Whether output is in color. -/
def ColorMode.applies (mode : ColorMode) (around : Surroundings) : Bool :=
  match mode with
  | .always => true
  | .never => false
  | .auto => around.terminal && (around.environment.get? "NO_COLOR").isNone

/-- The failure of a poll that has not reached every datacenter. -/
def shortfall (metrics : Metrics) : Option TaskFailure :=
  if metrics.datacentersReachable < metrics.datacentersTotal then
    some (.unreachable (metrics.datacentersTotal - metrics.datacentersReachable)
      metrics.datacentersTotal)
  else none

/-- Polls once and reports. -/
def pollTask (dashboard : Dashboard) (format : OutputFormat) (color : Bool)
    (around : Surroundings) : Done :=
  let polled := dashboard.pollOnce around.networks around.now
  let snapshot := polled.snapshot
  { output :=
      [match format with
       | .json => (pollJson around.style snapshot).pretty
       | .table => pollTables around.style color snapshot]
    failure := shortfall snapshot.metrics
    log := pollLog polled.backends around.networks snapshot }

/-- The log of as many further polls in the background, each with its report. -/
def backgroundLog (dashboard : Dashboard) (around : Surroundings) : Nat → List LogRecord
  | 0 => []
  | rounds + 1 =>
    let polled := dashboard.pollOnce around.networks around.now
    pollLog polled.backends around.networks polled.snapshot ++ healthLog polled.snapshot ++
      backgroundLog polled around rounds

/-- The record of the beginning of polling. -/
def beginningLog (interval : Duration) : LogRecord :=
  if interval.isZero then
    ⟨.debug, "vantage_core::dashboard", "background polling disabled", []⟩
  else
    ⟨.info, "vantage_core::dashboard", "background polling started",
      [("interval_secs", .number (.double interval.seconds.toBits))]⟩

/-- Polls until the interrupt. The first snapshot is reported twice: when polling
begins, and as the first one that has been published. -/
def runTask (dashboard : Dashboard) (around : Surroundings) : Done :=
  let started := dashboard.start around.networks around.now
  let interval := dashboard.setup.policy.refreshInterval
  let further := if interval.isZero then 0 else around.reports - 2
  { output := []
    failure := none
    log :=
      pollLog started.backends around.networks started.snapshot ++ [beginningLog interval] ++
        (List.replicate (min around.reports 2) (healthLog started.snapshot)).flatten ++
        backgroundLog started around further ++
        [⟨.info, "vantage::commands::run", "interrupt received, shutting down", []⟩,
         ⟨.debug, "vantage_core::dashboard", "dashboard shut down", []⟩] }

/-- How a task is named in the log. -/
def Task.describe : Task → String
  | .checkConfig => "CheckConfig"
  | .poll .table => "Poll(PollArgs \x7b output: Table \x7d)"
  | .poll .json => "Poll(PollArgs \x7b output: Json \x7d)"
  | .run => "Run"

/-- Carries out a task on a configuration that has been loaded. -/
def perform (task : Task) (options : Options) (setup : Setup) (around : Surroundings) : Done :=
  let failed (failure : Failure) : Done := ⟨[], some (.ofFailure failure), []⟩
  match task with
  | .checkConfig => ⟨describeSetup setup, none, []⟩
  | .poll format =>
    match Dashboard.build setup around.files with
    | .ok dashboard => pollTask dashboard format (options.color.applies around) around
    | .error failure => failed failure
  | .run =>
    match Dashboard.build setup around.files with
    | .ok dashboard => runTask dashboard around
    | .error failure => failed failure

/-- Loads the configuration and carries out a task. -/
def execute (task : Task) (options : Options) (around : Surroundings) : Done :=
  let begun : LogRecord :=
    ⟨.debug, "vantage", "dispatching command", [("command", .string task.describe)]⟩
  match load options around with
  | .error failure => ⟨[], some failure, [begun]⟩
  | .ok setup =>
    let loaded : LogRecord :=
      ⟨.debug, "vantage::commands", "configuration loaded",
        [("datacenters", .nat setup.registry.datacenters.length),
         ("roles", .nat setup.registry.roles.length)]⟩
    let done := perform task options setup around
    { done with log := begun :: loaded :: done.log }

/-! ### A whole call -/

/-- What a call comes to. -/
structure Ended where
  exitStatus : Nat
  /-- What is written to standard output. -/
  output : String
  /-- What is said about a failure. -/
  complaint : Option String
  /-- The name of the failure. -/
  code : Option String
  /-- The records that are kept. -/
  log : List LogRecord

/-- The blocks of text as they are written, each with a line end. An empty block
is not written. -/
def written (blocks : List String) : String :=
  String.join ((blocks.filter (· ≠ "")).map (· ++ "\n"))

/-- How the program is used. -/
def usage : String :=
  "Usage: vantage [--config <path>] [-v] [--json-logs] [--color <mode>] <command>\n\n" ++
  "Commands:\n" ++
  "  check-config  Load and validate the configuration, then list datacenters and roles\n" ++
  "  poll          Poll every datacenter once and print health and object counts\n" ++
  "  run           Poll continuously, logging health after every snapshot, until Ctrl-C\n"

/-- A call of the program. -/
def call (arguments : List String) (around : Surroundings) : Ended :=
  match parse arguments around.environment with
  | .error .help => ⟨0, usage, none, none, []⟩
  | .error (.version name) => ⟨0, name ++ " " ++ programVersion ++ "\n", none, none, []⟩
  | .error (.flaw flaw) => ⟨2, "", some ("error: " ++ flaw.message), none, []⟩
  | .ok (task, options) =>
    let done := execute task options around
    let filter := LogFilter.ofCall options.verbosity around.environment
    { exitStatus := (done.failure.map (·.exitStatus)).getD 0
      output := written done.output
      complaint := done.failure.map (·.complaint)
      code := done.failure.map (·.code)
      log := done.log.filter filter.keeps }

end FleetView.Cli
