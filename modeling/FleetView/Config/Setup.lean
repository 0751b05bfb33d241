/-
From a configuration to what a dashboard is built from. Settings are checked in
a fixed order: the times of the dashboard, then the datacenters one by one, then
the roles one by one, and then all of them together; the first mistake settles
the answer.
-/

import FleetView.Config.Layers
import FleetView.Dashboard.Basic

namespace FleetView

/-- A time of zero seconds is refused. -/
def positive (field : String) (seconds : Nat) : Except ConfigFlaw Unit :=
  if seconds = 0 then .error (.invalid field "must be greater than zero") else .ok ()

/-- The general rules that the settings amount to. -/
def DashboardSettings.policy (settings : DashboardSettings) : Policy where
  refreshInterval := .ofSeconds settings.refreshInterval
  pollTimeout := .ofSeconds settings.pollTimeout
  dispatchTimeout := .ofSeconds settings.dispatchTimeout
  requireSilencingReason := settings.requireSilencingReason
  disableNoExpiration := settings.disableNoExpiration
  retainStaleData := settings.retainStaleData

namespace DatacenterEntry

/-- The password: from the variable if one is named, else as written, else
empty. -/
def secret (entry : DatacenterEntry) (environment : Environment) : Except ConfigFlaw String :=
  match entry.passwordVariable with
  | some name =>
    match environment.get? name with
    | some password => .ok password
    | none => .error (.noSecret entry.name name)
  | none => .ok (entry.password.getD "")

/-- What is sent for authorization, if there is a user. -/
def credentials (entry : DatacenterEntry) (environment : Environment) :
    Except ConfigFlaw (Option Credentials) :=
  match entry.user with
  | some username => (entry.secret environment).map fun password => some ⟨username, password⟩
  | none => .ok none

/-- How certificates are checked. -/
def tls (entry : DatacenterEntry) : Tls :=
  if entry.insecure then .insecure
  else match entry.certificate with
    | some path => .ca path
    | none => .system

/-- The datacenter of an entry. -/
def datacenter (entry : DatacenterEntry) (environment : Environment) :
    Except ConfigFlaw Datacenter := do
  let field := "datacenters." ++ entry.name
  let url ← (Url.parse entry.url).mapError fun flaw => .invalid (field ++ ".url") flaw.message
  match entry.timeout with
  | some seconds => positive (field ++ ".timeout_secs") seconds
  | none => .ok ()
  let credentials ← entry.credentials environment
  .ok
    { name := entry.name
      url
      credentials
      tls := entry.tls
      timeout := entry.timeout.map .ofSeconds }

end DatacenterEntry

namespace RoleEntry

/-- The datacenters that a role may see. -/
def scope (entry : RoleEntry) : Except ConfigFlaw Scope :=
  if "*" ∈ entry.datacenters then
    if entry.datacenters.length = 1 then .ok .all
    else .error (.invalid ("roles." ++ entry.name ++ ".datacenters")
      "\"*\" cannot be combined with datacenter names")
  else .ok (.only (.ofList entry.datacenters))

/-- The role of an entry. -/
def role (entry : RoleEntry) : Except ConfigFlaw Role :=
  entry.scope.map fun datacenters =>
    { name := entry.name
      datacenters
      subscriptions := entry.subscriptions.map .ofList
      readonly := entry.readonly }

end RoleEntry

namespace Config

/-- What a dashboard is built from. -/
def setup (config : Config) (environment : Environment) : Except ConfigFlaw Setup := do
  positive "dashboard.poll_timeout_secs" config.dashboard.pollTimeout
  positive "dashboard.dispatch_timeout_secs" config.dashboard.dispatchTimeout
  let datacenters ← config.datacenters.mapM (·.datacenter environment)
  let roles ← config.roles.mapM (·.role)
  let registry ← (Registry.build datacenters roles).mapError fun flaw =>
    .invalid "config" flaw.message
  .ok ⟨registry, config.dashboard.policy⟩

end Config

end FleetView
