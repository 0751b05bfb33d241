/-
What a datacenter reports about itself, in the form in which it travels. The
engines that datacenters run disagree about which members are present, so most
fields may be missing; members without a field of their own are kept in a bag
and written back behind the fields.
-/

import FleetView.Json.Record

namespace FleetView

namespace Json

/-- A member that is written only when there is a value. -/
def memberOfOption {α : Type} (name : String) (encode : α → Json) : Option α → List (String × Json)
  | none => []
  | some value => [(name, encode value)]

/-- A text that may be missing. -/
def text? : Option String → Json := option .string

/-- An integer that may be missing. -/
def int? : Option Int → Json := option .int

/-- A count that may be missing. -/
def nat? : Option Nat → Json := option .nat

end Json

namespace Report

/-- A check definition. -/
structure Check where
  name : String
  command : Option String
  subscribers : List String
  interval : Option Nat
  standalone : Bool
  extra : Bag
  deriving DecidableEq

/-- A monitored client. -/
structure Client where
  name : String
  address : Option String
  subscriptions : List String
  version : Option String
  /-- When the client was last heard of, in seconds since 1970. -/
  timestamp : Option Int
  extra : Bag
  deriving DecidableEq

/-- The result of a check, as part of an event. -/
structure EventCheck where
  name : String
  /-- Zero is fine, one is a warning, two is critical. -/
  status : Int
  output : Option String
  subscribers : List String
  extra : Bag
  deriving DecidableEq

/-- An open event. -/
structure Event where
  id : Option String
  client : Client
  check : EventCheck
  occurrences : Nat
  action : Option String
  timestamp : Option Int
  silenced : Bool
  extra : Bag
  deriving DecidableEq

/-- The summary of an aggregate. -/
structure Aggregate where
  name : String
  extra : Bag
  deriving DecidableEq

/-- Data that someone keeps in a datacenter under a path. -/
structure Stash where
  path : String
  content : Bag
  /-- Seconds until it is dropped. -/
  expire : Option Int
  deriving DecidableEq

/-- A silence entry. -/
structure Silence where
  id : String
  subscription : Option String
  check : Option String
  reason : Option String
  creator : Option String
  expire : Option Int
  expireOnResolve : Bool
  extra : Bag
  deriving DecidableEq

/-! ### Reading -/

/-- Reads a check definition. -/
def Check.decoder : Decoder Check :=
  (Record.of Check.mk)
    |>.required "name" .string
    |>.defaulted "command" none (.optional .string)
    |>.defaulted "subscribers" [] (.list .string)
    |>.defaulted "interval" none (.optional .u64)
    |>.defaulted "standalone" false .bool
    |>.opened "RawCheck"

/-- Reads a client. -/
def Client.decoder : Decoder Client :=
  (Record.of Client.mk)
    |>.required "name" .string
    |>.defaulted "address" none (.optional .string)
    |>.defaulted "subscriptions" [] (.list .string)
    |>.defaulted "version" none (.optional .string)
    |>.defaulted "timestamp" none (.optional .i64)
    |>.opened "RawClient"

/-- Reads the result of a check. -/
def EventCheck.decoder : Decoder EventCheck :=
  (Record.of EventCheck.mk)
    |>.required "name" .string
    |>.defaulted "status" 0 .i32
    |>.defaulted "output" none (.optional .string)
    |>.defaulted "subscribers" [] (.list .string)
    |>.opened "RawEventCheck"

/-- Reads an event. -/
def Event.decoder : Decoder Event :=
  (Record.of Event.mk)
    |>.defaulted "id" none (.optional .string)
    |>.required "client" Client.decoder
    |>.required "check" EventCheck.decoder
    |>.defaulted "occurrences" 0 .u64
    |>.defaulted "action" none (.optional .string)
    |>.defaulted "timestamp" none (.optional .i64)
    |>.defaulted "silenced" false .bool
    |>.opened "RawEvent"

/-- Reads an aggregate. -/
def Aggregate.decoder : Decoder Aggregate :=
  (Record.of Aggregate.mk)
    |>.required "name" .string
    |>.opened "RawAggregate"

/-- Reads a stash. -/
def Stash.decoder : Decoder Stash :=
  (Record.of Stash.mk)
    |>.required "path" .string
    |>.defaulted "content" [] .bag
    |>.defaulted "expire" none (.optional .i64)
    |>.closed "RawStash"

/-- Reads a silence entry. -/
def Silence.decoder : Decoder Silence :=
  (Record.of Silence.mk)
    |>.required "id" .string
    |>.defaulted "subscription" none (.optional .string)
    |>.defaulted "check" none (.optional .string)
    |>.defaulted "reason" none (.optional .string)
    |>.defaulted "creator" none (.optional .string)
    |>.defaulted "expire" none (.optional .i64)
    |>.defaulted "expire_on_resolve" false .bool
    |>.opened "RawSilence"

/-! ### Writing -/

/-- Writes a check definition. -/
def Check.toJson (check : Check) : Json :=
  .object <|
    [("name", .string check.name),
     ("command", .text? check.command),
     ("subscribers", .strings check.subscribers),
     ("interval", .nat? check.interval),
     ("standalone", .bool check.standalone)] ++ check.extra

/-- Writes a client. -/
def Client.toJson (client : Client) : Json :=
  .object <|
    [("name", .string client.name),
     ("address", .text? client.address),
     ("subscriptions", .strings client.subscriptions),
     ("version", .text? client.version),
     ("timestamp", .int? client.timestamp)] ++ client.extra

/-- Writes the result of a check. -/
def EventCheck.toJson (check : EventCheck) : Json :=
  .object <|
    [("name", .string check.name),
     ("status", .int check.status),
     ("output", .text? check.output),
     ("subscribers", .strings check.subscribers)] ++ check.extra

/-- Writes an event. -/
def Event.toJson (event : Event) : Json :=
  .object <|
    [("id", .text? event.id),
     ("client", event.client.toJson),
     ("check", event.check.toJson),
     ("occurrences", .nat event.occurrences),
     ("action", .text? event.action),
     ("timestamp", .int? event.timestamp),
     ("silenced", .bool event.silenced)] ++ event.extra

/-- Writes an aggregate. -/
def Aggregate.toJson (aggregate : Aggregate) : Json :=
  .object (("name", .string aggregate.name) :: aggregate.extra)

/-- Writes a stash; a stash that is kept for good has no member for its end. -/
def Stash.toJson (stash : Stash) : Json :=
  .object <|
    [("path", .string stash.path), ("content", .object stash.content)] ++
      Json.memberOfOption "expire" .int stash.expire

/-- Writes a silence entry. -/
def Silence.toJson (silence : Silence) : Json :=
  .object <|
    [("id", .string silence.id),
     ("subscription", .text? silence.subscription),
     ("check", .text? silence.check),
     ("reason", .text? silence.reason),
     ("creator", .text? silence.creator),
     ("expire", .int? silence.expire),
     ("expire_on_resolve", .bool silence.expireOnResolve)] ++ silence.extra

end Report

end FleetView
