/-
Polling. One cycle asks every datacenter for its six collections and makes the
next snapshot of what comes back. A datacenter whose poll fails loses nothing
but its own turn: its slice says why, and its data is the old or none.
-/

import FleetView.Command.Relay
import FleetView.Store.Snapshot

namespace FleetView

/-- Two calls that are made at the same time. Both have to end; when both fail,
the first one's error counts. -/
def Heard.both {α β : Type} (first : Heard (α → β)) (second : Heard α) : Heard β :=
  match first, second with
  | none, _ | _, none => none
  | some (.error error), some _ => some (.error error)
  | some (.ok _), some (.error error) => some (.error error)
  | some (.ok make), some (.ok value) => some (.ok (make value))

namespace Connection

/-- What a caller who waits for some time hears of the call for a collection. -/
def hear {α : Type} (connection : Connection) (network : Network) (patience : Duration)
    (collection : String) (decoder : Decoder α) : Heard (List α) :=
  (connection.list network collection decoder).heard connection.limit patience

/-- Reads the six collections. -/
def fetch (connection : Connection) (network : Network) (patience : Duration) : Heard Fetched :=
  Heard.both (some (.ok Fetched.mk))
      (connection.hear network patience "checks" Report.Check.decoder)
    |>.both (connection.hear network patience "clients" Report.Client.decoder)
    |>.both (connection.hear network patience "events" Report.Event.decoder)
    |>.both (connection.hear network patience "aggregates" Report.Aggregate.decoder)
    |>.both (connection.hear network patience "stashes" Report.Stash.decoder)
    |>.both (connection.hear network patience "silenced" Report.Silence.decoder)

/-- The collections, in the order in which they are asked for. -/
def collections : List String :=
  ["checks", "clients", "events", "aggregates", "stashes", "silenced"]

/-- The requests that reading the six collections leads to. -/
def fetchRequests (connection : Connection) : List Request :=
  collections.filterMap fun collection =>
    (connection.request .get [collection] none).toOption

end Connection

namespace Backend

/-- What a poll of the datacenter brings, or why it failed. -/
def poll (backend : Backend) (network : Network) : Except String Fetched :=
  match backend.connection.fetch network backend.pollTimeout with
  | some (.ok fetched) => .ok fetched
  | some (.error error) => .error error.message
  | none => .error ("poll timed out after " ++ backend.pollTimeout.text ++ "s")

/-- The slice of the datacenter after a poll. -/
def slice (backend : Backend) (policy : Policy) (previous : Snapshot) (now : Instant)
    (polled : Except String Fetched) : Slice :=
  match polled with
  | .ok fetched => ⟨Status.reachable backend.name now, Collections.ofFetched backend.name fetched⟩
  | .error reason =>
    let kept := if policy.retainStaleData then previous.slice? backend.name else none
    ⟨Status.unreachable backend.name reason now, (kept.map (·.data)).getD Collections.empty⟩

end Backend

/-- The networks that one cycle meets: for the name of each datacenter, what its
requests are answered. Two datacenters need not be answered alike, even where
they are asked alike. -/
abbrev Networks := String → Network

/-- The snapshot that follows another one. -/
def Snapshot.next (previous : Snapshot) (backends : List Backend) (policy : Policy)
    (networks : Networks) (now : Instant) : Snapshot :=
  { generation := previous.generation + 1
    slices := backends.map fun backend =>
      backend.slice policy previous now (backend.poll (networks backend.name)) }

end FleetView
