/-
A view over all datacenters at one point: one slice per datacenter, in the order
in which the datacenters are configured, and a number that grows by one with
each poll. The merged lists and the counts are read off the slices.
-/

import FleetView.Store.Collections
import FleetView.Access

namespace FleetView

/-- What one datacenter contributes. -/
structure Slice where
  status : Status
  data : Collections
  deriving DecidableEq

/-- A consistent view over all datacenters. -/
structure Snapshot where
  generation : Nat
  slices : List Slice
  deriving DecidableEq

/-- Counts over a whole snapshot. -/
structure Metrics where
  generation : Nat
  objects : List (Kind × Nat)
  /-- Only severities that occur. -/
  eventsBySeverity : List (Severity × Nat)
  silencedEvents : Nat
  datacentersTotal : Nat
  datacentersReachable : Nat
  deriving DecidableEq

/-- The overall health: fine when every datacenter answered the last poll. -/
structure HealthReport where
  ok : Bool
  generation : Nat
  /-- Ascending by name. -/
  datacenters : List Status
  deriving DecidableEq

/-- Puts a status in its place by name; one of the same name is replaced. -/
def Status.insertByName (status : Status) : List Status → List Status
  | [] => [status]
  | other :: rest =>
    if status.name < other.name then status :: other :: rest
    else if status.name = other.name then status :: rest
    else other :: insertByName status rest

namespace Snapshot

/-- The view before the first poll. -/
def initial (datacenters : List String) : Snapshot :=
  ⟨0, datacenters.map fun name => ⟨Status.unknown name, Collections.empty⟩⟩

/-- The view that stands when a new one is offered: the new one, unless its number does
not come after the current one's. -/
def publish (current offered : Snapshot) : Snapshot :=
  if offered.generation ≤ current.generation then current else offered

/-- The slice of a datacenter. -/
def slice? (snapshot : Snapshot) (datacenter : String) : Option Slice :=
  snapshot.slices.find? (·.status.name = datacenter)

/-- Whether there is such a datacenter. -/
def hasDatacenter (snapshot : Snapshot) (datacenter : String) : Bool :=
  (snapshot.slice? datacenter).isSome

/-- The lists of all datacenters, one after the other. -/
def merged (snapshot : Snapshot) : Collections :=
  snapshot.slices.foldl (fun lists slice => lists.append slice.data) Collections.empty

/-- The objects of a kind in all datacenters. -/
def list (snapshot : Snapshot) (kind : Kind) : List Object := snapshot.merged.objects kind

/-- The object of a kind with a key in a datacenter. -/
def get? (snapshot : Snapshot) (kind : Kind) (datacenter key : String) : Option Object :=
  (snapshot.slice? datacenter).bind fun slice => slice.data.get? kind key

/-- The counts. -/
def metrics (snapshot : Snapshot) : Metrics :=
  let merged := snapshot.merged
  let withSeverity (severity : Severity) := (merged.events.filter (·.severity = severity)).length
  { generation := snapshot.generation
    objects := Kind.all.map fun kind => (kind, merged.count kind)
    eventsBySeverity :=
      (Severity.all.map fun severity => (severity, withSeverity severity)).filter (·.2 ≠ 0)
    silencedEvents := (merged.events.filter (·.silenced)).length
    datacentersTotal := snapshot.slices.length
    datacentersReachable := (snapshot.slices.filter (·.status.isReachable)).length }

/-- The status of every datacenter, ascending by name. -/
def health (snapshot : Snapshot) : List Status :=
  snapshot.slices.foldl (fun statuses slice => slice.status.insertByName statuses) []

/-- The overall health. -/
def healthReport (snapshot : Snapshot) : HealthReport :=
  let datacenters := snapshot.health
  ⟨datacenters.all (·.isReachable), snapshot.generation, datacenters⟩

/-- The status of each datacenter that a caller may see. -/
def visibleDatacenters (snapshot : Snapshot) (identity : Identity) : List Status :=
  (snapshot.slices.map (·.status)).filter fun status => identity.maySee (.datacenter status)

end Snapshot

/-- Writes the counts. -/
def Metrics.toJson (metrics : Metrics) : Json :=
  .object
    [("generation", .nat metrics.generation),
     ("objects", .object (metrics.objects.map fun (kind, count) => (kind.name, .nat count))),
     ("events_by_severity",
       .object (metrics.eventsBySeverity.map fun (severity, count) => (severity.name, .nat count))),
     ("silenced_events", .nat metrics.silencedEvents),
     ("datacenters_total", .nat metrics.datacentersTotal),
     ("datacenters_reachable", .nat metrics.datacentersReachable)]

end FleetView
