/-
The status of a datacenter as the polls leave it. Before the first poll nothing
is known; from then on each poll decides anew.
-/

import FleetView.Object.Codec

namespace FleetView

/-- Whether the most recent poll got through. -/
inductive Health where
  | unknown
  | reachable
  | unreachable
  deriving DecidableEq, Repr

namespace Health

/-- Every health, in the fixed order. -/
def all : List Health := [.unknown, .reachable, .unreachable]

/-- The name of a health. -/
def name : Health → String
  | .unknown => "unknown"
  | .reachable => "reachable"
  | .unreachable => "unreachable"

/-- Reads a health by its name. -/
def decoder : Decoder Health := .oneOf (all.map fun health => (health.name, .unit health))

end Health

/-- What is known about a datacenter. -/
structure Status where
  name : String
  health : Health
  /-- Why the most recent poll failed, if it did. -/
  lastError : Option String
  /-- When the most recent poll ended. -/
  lastPoll : Option Instant
  /-- Whether the data is older than the most recent poll. -/
  stale : Bool
  deriving DecidableEq, Repr

namespace Status

/-- A datacenter that has not been polled. -/
def unknown (name : String) : Status := ⟨name, .unknown, none, none, false⟩

/-- A datacenter whose poll got through. -/
def reachable (name : String) (polled : Instant) : Status :=
  ⟨name, .reachable, none, some polled, false⟩

/-- A datacenter whose poll failed. -/
def unreachable (name reason : String) (polled : Instant) : Status :=
  ⟨name, .unreachable, some reason, some polled, true⟩

/-- Whether the most recent poll got through. -/
def isReachable (status : Status) : Bool := status.health = .reachable

/-- Reads a status. -/
def decoder : Decoder Status :=
  (Record.of Status.mk)
    |>.required "name" .string
    |>.required "health" Health.decoder
    |>.optional "last_error" .string
    |>.optional "last_poll" Instant.decoder
    |>.required "stale" .bool
    |>.closed "DatacenterStatus"

/-- Writes a status, with a way to write points in time. -/
def toJsonWith (time : Instant → String) (status : Status) : Json :=
  .object
    [("name", .string status.name),
     ("health", .string status.health.name),
     ("last_error", .text? status.lastError),
     ("last_poll", .option (fun polled => .string (time polled)) status.lastPoll),
     ("stale", .bool status.stale)]

/-- Writes a status. -/
def toJson (status : Status) : Json := status.toJsonWith Instant.text

end Status

end FleetView
