/-
Monitoring objects: what datacenters report, each object tagged with the
datacenter that it belongs to. Every object has a key, by which it is found
among the objects of its kind in its datacenter.
-/

import FleetView.Object.Kind
import FleetView.Time.Instant

namespace FleetView

/-- A check definition. -/
structure Check where
  datacenter : String
  name : String
  command : Option String
  subscribers : List String
  interval : Option Nat
  standalone : Bool
  extra : Bag
  deriving DecidableEq

/-- A monitored client. -/
structure Client where
  datacenter : String
  name : String
  address : Option String
  subscriptions : List String
  version : Option String
  lastSeen : Option Instant
  extra : Bag
  deriving DecidableEq

/-- The open result of a check on a client. -/
structure Event where
  datacenter : String
  id : Option String
  client : String
  check : String
  severity : Severity
  output : Option String
  occurrences : Nat
  action : Option String
  silenced : Bool
  timestamp : Option Instant
  /-- The subscriptions of the client that the event belongs to. -/
  clientSubscriptions : List String
  /-- The subscribers of the check that produced the event. -/
  checkSubscribers : List String
  extra : Bag
  deriving DecidableEq

/-- A named group of results. -/
structure Aggregate where
  datacenter : String
  name : String
  extra : Bag
  deriving DecidableEq

/-- Data kept under a path. -/
structure Stash where
  datacenter : String
  path : String
  content : Bag
  expire : Option Int
  deriving DecidableEq

/-- An entry that keeps alerts from being raised. -/
structure Silence where
  datacenter : String
  id : String
  subscription : Option String
  check : Option String
  reason : Option String
  creator : Option String
  expire : Option Int
  expireOnResolve : Bool
  extra : Bag
  deriving DecidableEq

/-- A named group of clients. No datacenter reports these; they follow from the
lists that clients and checks carry. -/
structure Subscription where
  datacenter : String
  name : String
  clientCount : Nat
  deriving DecidableEq

/-- The id that a datacenter gives to a silence entry: both halves around a
colon, with a star for a half that is missing. -/
def Silence.entryId (subscription check : Option String) : String :=
  subscription.getD "*" ++ ":" ++ check.getD "*"

/-- The key of the event of a check on a client. -/
def Event.keyOf (client check : String) : String := client ++ "/" ++ check

/-- A monitoring object of any kind. -/
inductive Object where
  | check (check : Check)
  | client (client : Client)
  | event (event : Event)
  | aggregate (aggregate : Aggregate)
  | stash (stash : Stash)
  | silence (silence : Silence)
  | subscription (subscription : Subscription)
  deriving DecidableEq

namespace Object

/-- The kind of an object. -/
def kind : Object → Kind
  | .check _ => .check
  | .client _ => .client
  | .event _ => .event
  | .aggregate _ => .aggregate
  | .stash _ => .stash
  | .silence _ => .silence
  | .subscription _ => .subscription

/-- The datacenter that an object belongs to. -/
def datacenter : Object → String
  | .check object => object.datacenter
  | .client object => object.datacenter
  | .event object => object.datacenter
  | .aggregate object => object.datacenter
  | .stash object => object.datacenter
  | .silence object => object.datacenter
  | .subscription object => object.datacenter

/-- The key of an object. -/
def key : Object → String
  | .check object => object.name
  | .client object => object.name
  | .event object => Event.keyOf object.client object.check
  | .aggregate object => object.name
  | .stash object => object.path
  | .silence object => object.id
  | .subscription object => object.name

end Object

end FleetView
