/-
The kinds of object that a datacenter exposes, and the severity of events. Both
are closed lists with a fixed order.
-/

import FleetView.Json.Decoder

namespace FleetView

/-- The kinds of monitoring object. -/
inductive Kind where
  | check
  | client
  | event
  | aggregate
  | stash
  | silence
  | subscription
  deriving DecidableEq, Repr

namespace Kind

/-- Every kind, in the fixed order. -/
def all : List Kind := [.check, .client, .event, .aggregate, .stash, .silence, .subscription]

/-- The name of a kind. -/
def name : Kind → String
  | .check => "check"
  | .client => "client"
  | .event => "event"
  | .aggregate => "aggregate"
  | .stash => "stash"
  | .silence => "silence"
  | .subscription => "subscription"

/-- The kind with a name. -/
def ofName? (name : String) : Option Kind := all.find? (·.name = name)

end Kind

/-- How bad an event is. -/
inductive Severity where
  | ok
  | warning
  | critical
  | unknown
  deriving DecidableEq, Repr

namespace Severity

/-- Every severity, in the fixed order. -/
def all : List Severity := [.ok, .warning, .critical, .unknown]

/-- The name of a severity. -/
def name : Severity → String
  | .ok => "ok"
  | .warning => "warning"
  | .critical => "critical"
  | .unknown => "unknown"

/-- The severity that a check's exit status stands for. -/
def ofStatus (status : Int) : Severity :=
  if status = 0 then .ok
  else if status = 1 then .warning
  else if status = 2 then .critical
  else .unknown

/-- Reads a severity by its name. -/
def decoder : Decoder Severity :=
  .oneOf (all.map fun severity => (severity.name, .unit severity))

end Severity

end FleetView
