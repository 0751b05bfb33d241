/-
What the tasks show: the datacenters and roles of a configuration, and the health
and the counts after a poll.
-/

import FleetView.Cli.Options
import FleetView.Config.Setup
import FleetView.Text.Table

namespace FleetView.Cli

/-- How points in time are written. -/
structure TimeStyle where
  /-- In tables. -/
  table : Instant → String
  /-- In JSON. -/
  json : Instant → String

/-- The usual way to write points in time. -/
def TimeStyle.standard : TimeStyle := ⟨Instant.tableText, Instant.text⟩

/-! ### A configuration -/

/-- Names with commas between them. -/
def listed (names : List String) : String := Text.joinWith ", " names

/-- A length of time in whole seconds. -/
def secondsText (time : Duration) : String := Nat.repr time.wholeSeconds ++ "s"

/-- The row of a datacenter. Of its credentials only the name is shown. -/
def datacenterRow (policy : Policy) (datacenter : Datacenter) : List String :=
  [datacenter.name, datacenter.url.text,
   match datacenter.credentials with
   | some held => "basic (" ++ held.username ++ ")"
   | none => "none",
   secondsText (datacenter.timeout.getD policy.pollTimeout)]

/-- The row of a role. -/
def roleRow (role : Role) : List String :=
  [role.name,
   match role.datacenters with
   | .all => "*"
   | .only names => listed names,
   match role.subscriptions with
   | some names => listed names
   | none => "*",
   if role.readonly then "true" else "false"]

/-- Everything that a configuration defines. -/
def describeSetup (setup : Setup) : List String :=
  let policy := setup.policy
  let datacenters := Text.table ["Name", "URL", "Auth", "Timeout"]
    (setup.registry.datacenters.map (datacenterRow policy))
  let roles := Text.table ["Role", "Datacenters", "Subscriptions", "Read-only"]
    (setup.registry.roles.map roleRow)
  [datacenters] ++ (if setup.registry.roles = [] then [] else [roles]) ++
    ["refresh every " ++ secondsText policy.refreshInterval ++ ", poll timeout " ++
      secondsText policy.pollTimeout ++ ", dispatch timeout " ++ secondsText policy.dispatchTimeout]

/-! ### A poll -/

/-- The name of a health in its color. -/
def paint (color : Bool) (health : Health) : String :=
  if color then
    match health with
    | .reachable => "\x1b[32m" ++ health.name ++ "\x1b[39m"
    | .unreachable => "\x1b[1m\x1b[31m" ++ health.name ++ "\x1b[39m\x1b[0m"
    | .unknown => "\x1b[33m" ++ health.name ++ "\x1b[39m"
  else health.name

/-- The row of a datacenter's status. -/
def statusRow (style : TimeStyle) (color : Bool) (status : Status) : List String :=
  [status.name, paint color status.health, if status.stale then "yes" else "no",
   match status.lastPoll with
   | some polled => style.table polled
   | none => "-",
   status.lastError.getD ""]

/-- The rows of the counts. -/
def countRows (metrics : Metrics) : List (List String) :=
  metrics.objects.map (fun (kind, count) => [kind.name, Nat.repr count]) ++
  metrics.eventsBySeverity.map (fun (severity, count) =>
    ["events (" ++ severity.name ++ ")", Nat.repr count]) ++
  [["events (silenced)", Nat.repr metrics.silencedEvents]]

/-- The outcome of a poll as tables. -/
def pollTables (style : TimeStyle) (color : Bool) (snapshot : Snapshot) : String :=
  Text.table ["Datacenter", "Health", "Stale", "Last poll", "Error"]
    (snapshot.health.map (statusRow style color)) ++ "\n" ++
  Text.table ["Kind", "Count"] (countRows snapshot.metrics)

/-- The outcome of a poll as a JSON value. -/
def pollJson (style : TimeStyle) (snapshot : Snapshot) : Json :=
  let report := snapshot.healthReport
  .object
    [("health", .object
      [("ok", .bool report.ok),
       ("generation", .nat report.generation),
       ("datacenters", .object (report.datacenters.map fun status =>
         (status.name, status.toJsonWith style.json)))]),
     ("metrics", snapshot.metrics.toJson)]

end FleetView.Cli
