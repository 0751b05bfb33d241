/-
The configuration as it is written down, before anything in it has been checked
or looked up. Settings that are left out have the values given here.
-/

import FleetView.Json.Record

namespace FleetView

/-- How polls and commands are made. Times are in seconds. -/
structure DashboardSettings where
  refreshInterval : Nat
  pollTimeout : Nat
  dispatchTimeout : Nat
  requireSilencingReason : Bool
  disableNoExpiration : Bool
  retainStaleData : Bool
  deriving DecidableEq, Repr

/-- A datacenter. -/
structure DatacenterEntry where
  name : String
  url : String
  user : Option String
  password : Option String
  /-- The variable that holds the password; it comes before the password itself. -/
  passwordVariable : Option String
  timeout : Option Nat
  insecure : Bool
  certificate : Option String
  deriving DecidableEq, Repr

/-- What callers in a role may reach. -/
structure RoleEntry where
  name : String
  /-- An asterisk alone stands for all datacenters. -/
  datacenters : List String
  subscriptions : Option (List String)
  readonly : Bool
  deriving DecidableEq, Repr

/-- A configuration. -/
structure Config where
  dashboard : DashboardSettings
  datacenters : List DatacenterEntry
  roles : List RoleEntry
  deriving DecidableEq, Repr

/-! ### Settings of the dashboard -/

namespace DashboardSettings

/-- The settings of a configuration that is silent about them. -/
def standard : DashboardSettings := ⟨10, 5, 10, false, false, true⟩

/-- Reads the settings. -/
def decoder : Decoder DashboardSettings :=
  (Record.of DashboardSettings.mk)
    |>.defaulted "refresh_interval_secs" standard.refreshInterval .u64
    |>.defaulted "poll_timeout_secs" standard.pollTimeout .u64
    |>.defaulted "dispatch_timeout_secs" standard.dispatchTimeout .u64
    |>.defaulted "require_silencing_reason" standard.requireSilencingReason .bool
    |>.defaulted "disable_no_expiration" standard.disableNoExpiration .bool
    |>.defaulted "retain_stale_data" standard.retainStaleData .bool
    |>.closed "DashboardSection"

/-- Writes the settings. -/
def toJson (settings : DashboardSettings) : Json :=
  .object
    [("refresh_interval_secs", .nat settings.refreshInterval),
     ("poll_timeout_secs", .nat settings.pollTimeout),
     ("dispatch_timeout_secs", .nat settings.dispatchTimeout),
     ("require_silencing_reason", .bool settings.requireSilencingReason),
     ("disable_no_expiration", .bool settings.disableNoExpiration),
     ("retain_stale_data", .bool settings.retainStaleData)]

end DashboardSettings

/-! ### Datacenters -/

namespace DatacenterEntry

/-- Reads a datacenter. -/
def decoder : Decoder DatacenterEntry :=
  (Record.of DatacenterEntry.mk)
    |>.required "name" .string
    |>.required "url" .string
    |>.optional "user" .string
    |>.optional "password" .string
    |>.optional "password_env" .string
    |>.optional "timeout_secs" .u64
    |>.defaulted "insecure" false .bool
    |>.optional "ca_cert" .path
    |>.closed "DatacenterEntry"

/-- Writes a datacenter. -/
def toJson (entry : DatacenterEntry) : Json :=
  .object
    [("name", .string entry.name),
     ("url", .string entry.url),
     ("user", .option .string entry.user),
     ("password", .option .string entry.password),
     ("password_env", .option .string entry.passwordVariable),
     ("timeout_secs", .option .nat entry.timeout),
     ("insecure", .bool entry.insecure),
     ("ca_cert", .option .string entry.certificate)]

end DatacenterEntry

/-! ### Roles -/

namespace RoleEntry

/-- Reads a role. -/
def decoder : Decoder RoleEntry :=
  (Record.of RoleEntry.mk)
    |>.required "name" .string
    |>.defaulted "datacenters" [] (.list .string)
    |>.optional "subscriptions" (.list .string)
    |>.defaulted "readonly" false .bool
    |>.closed "RoleEntry"

/-- Writes a role. -/
def toJson (entry : RoleEntry) : Json :=
  .object
    [("name", .string entry.name),
     ("datacenters", .strings entry.datacenters),
     ("subscriptions", .option .strings entry.subscriptions),
     ("readonly", .bool entry.readonly)]

end RoleEntry

/-! ### The whole -/

namespace Config

/-- The configuration of nothing. -/
def standard : Config := ⟨.standard, [], []⟩

/-- Reads a configuration. -/
def decoder : Decoder Config :=
  (Record.of Config.mk)
    |>.defaulted "dashboard" .standard DashboardSettings.decoder
    |>.defaulted "datacenters" [] (.list DatacenterEntry.decoder)
    |>.defaulted "roles" [] (.list RoleEntry.decoder)
    |>.closed "Config"

/-- Writes a configuration. -/
def toJson (config : Config) : Json :=
  .object
    [("dashboard", config.dashboard.toJson),
     ("datacenters", .array (config.datacenters.map (·.toJson))),
     ("roles", .array (config.roles.map (·.toJson)))]

end Config

end FleetView
