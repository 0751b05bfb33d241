/-
From reports to monitoring objects. A report never names the datacenter that it
comes from, so each one is tagged with it here. Subscriptions are derived from
the lists of clients and checks.
-/

import FleetView.Object.Basic
import FleetView.Report.Basic

namespace FleetView

namespace Report

/-- The point in time of a number of seconds; none where the calendar ends. -/
def instant? (seconds : Option Int) : Option Instant := seconds.bind Instant.ofEpoch?

/-- A check as an object of a datacenter. -/
def Check.tagged (datacenter : String) (check : Check) : FleetView.Check :=
  { datacenter
    name := check.name
    command := check.command
    subscribers := check.subscribers
    interval := check.interval
    standalone := check.standalone
    extra := check.extra }

/-- A client as an object of a datacenter. -/
def Client.tagged (datacenter : String) (client : Client) : FleetView.Client :=
  { datacenter
    name := client.name
    address := client.address
    subscriptions := client.subscriptions
    version := client.version
    lastSeen := instant? client.timestamp
    extra := client.extra }

/-- An event as an object of a datacenter. What it says about its client and its
check is reduced to their names and lists. -/
def Event.tagged (datacenter : String) (event : Event) : FleetView.Event :=
  { datacenter
    id := event.id
    client := event.client.name
    check := event.check.name
    severity := Severity.ofStatus event.check.status
    output := event.check.output
    occurrences := event.occurrences
    action := event.action
    silenced := event.silenced
    timestamp := instant? event.timestamp
    clientSubscriptions := event.client.subscriptions
    checkSubscribers := event.check.subscribers
    extra := event.extra }

/-- An aggregate as an object of a datacenter. -/
def Aggregate.tagged (datacenter : String) (aggregate : Aggregate) : FleetView.Aggregate :=
  { datacenter, name := aggregate.name, extra := aggregate.extra }

/-- A stash as an object of a datacenter. -/
def Stash.tagged (datacenter : String) (stash : Stash) : FleetView.Stash :=
  { datacenter, path := stash.path, content := stash.content, expire := stash.expire }

/-- A silence entry as an object of a datacenter. -/
def Silence.tagged (datacenter : String) (silence : Silence) : FleetView.Silence :=
  { datacenter
    id := silence.id
    subscription := silence.subscription
    check := silence.check
    reason := silence.reason
    creator := silence.creator
    expire := silence.expire
    expireOnResolve := silence.expireOnResolve
    extra := silence.extra }

end Report

namespace Subscription

/-- Counts one more carrier of a name in a tally sorted by name. -/
def tally (name : String) (carriers : Nat) : List (String × Nat) → List (String × Nat)
  | [] => [(name, carriers)]
  | (other, count) :: rest =>
    if name < other then (name, carriers) :: (other, count) :: rest
    else if name = other then (other, count + carriers) :: rest
    else (other, count) :: tally name carriers rest

/-- The subscriptions of a datacenter, ascending by name. Each place in a client's
list counts; the name of a check's subscriber is there even when no client
carries it. A name without characters is none. -/
def gather (datacenter : String) (clients : List Client) (checks : List Check) :
    List Subscription :=
  let carried := (clients.flatMap (·.subscriptions)).foldl (fun names name => tally name 1 names) []
  let known := (checks.flatMap (·.subscribers)).foldl (fun names name => tally name 0 names) carried
  (known.filter (·.1 ≠ "")).map fun (name, count) => ⟨datacenter, name, count⟩

end Subscription

end FleetView
