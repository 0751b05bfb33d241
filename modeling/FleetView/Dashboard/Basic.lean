/-
The dashboard: the datacenters it is configured for, the current snapshot of
them, and whether it keeps polling on its own. All that happens to a dashboard
after it is built is that polls replace its snapshot and that its own polling is
begun and ended; reads and commands leave it as it is.
-/

import FleetView.Dashboard.Poll
import FleetView.Dashboard.Execution
import FleetView.Store.Resolution

namespace FleetView

/-- What a dashboard is built from. -/
structure Setup where
  registry : Registry
  policy : Policy

/-- A dashboard. -/
structure Dashboard where
  setup : Setup
  /-- In the order of the registry. -/
  backends : List Backend
  snapshot : Snapshot
  /-- Whether it polls on its own. -/
  polling : Bool
  /-- Whether it has been shut down, after which it never polls on its own. -/
  ended : Bool

namespace Dashboard

/-- Builds a dashboard. Nothing has been polled yet. -/
def build (setup : Setup) (files : Files) : Except Failure Dashboard := do
  let backends ← setup.registry.datacenters.mapM fun datacenter =>
    Backend.connect datacenter setup.policy files
  .ok ⟨setup, backends, Snapshot.initial setup.registry.names, false, false⟩

/-- Polls all datacenters once. -/
def pollOnce (dashboard : Dashboard) (networks : Networks) (now : Instant) : Dashboard :=
  { dashboard with
    snapshot := dashboard.snapshot.publish
      (dashboard.snapshot.next dashboard.backends dashboard.setup.policy networks now) }

/-- Polls once and goes on polling in the background, unless the interval is
nothing. -/
def start (dashboard : Dashboard) (networks : Networks) (now : Instant) : Dashboard :=
  let polled := dashboard.pollOnce networks now
  if dashboard.setup.policy.refreshInterval.isZero then polled
  else { polled with polling := !polled.ended }

/-- Ends the polling in the background for good. -/
def shutdown (dashboard : Dashboard) : Dashboard :=
  { dashboard with polling := false, ended := true }

/-- The requests that one poll leads to. -/
def pollRequests (dashboard : Dashboard) : List Request :=
  dashboard.backends.flatMap fun backend => backend.connection.fetchRequests

/-- The caller with a name in a role. -/
def identityFor (dashboard : Dashboard) (username role : String) : Identity :=
  dashboard.setup.registry.identityFor username role

/-- Relays a command without looking at access. -/
def dispatch (dashboard : Dashboard) (command : Command) (network : Network) : Relayed :=
  command.dispatch dashboard.backends dashboard.setup.policy network

/-- Carries out a command for a caller. -/
def execute (dashboard : Dashboard) (identity : Identity) (command : Command)
    (network : Network) : Relayed :=
  command.execute identity dashboard.snapshot dashboard.backends dashboard.setup.policy network

/-- What is shown of a dashboard as such. -/
def describe (dashboard : Dashboard) : String :=
  "Dashboard \x7b datacenters: [" ++
    Text.joinWith ", " (dashboard.backends.map fun backend => Text.quoted backend.name) ++
    "], cache: SnapshotCache \x7b generation: " ++ Nat.repr dashboard.snapshot.generation ++
    ", .. \x7d, .. \x7d"

end Dashboard

end FleetView
