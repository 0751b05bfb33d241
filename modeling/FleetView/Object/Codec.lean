/-
Monitoring objects as JSON, in both directions. Fields stand in order of
declaration with the bag of further members behind them.
-/

import FleetView.Object.Basic
import FleetView.Report.Basic
import FleetView.Time.Reader

namespace FleetView

/-- Reads a point in time. -/
def Instant.decoder : Decoder Instant := fun _ content =>
  match content with
  | .string text =>
    match Instant.parse text with
    | .ok instant => .ok instant
    | .error flaw => .error (Cause.refused flaw.message).here
  | other => Decoder.mismatch "an RFC 3339 formatted date and time string" other

/-- Writes a point in time that may be missing. -/
def Json.instant? : Option Instant → Json := option fun instant => .string instant.text

/-! ### Reading -/

/-- Reads a check. -/
def Check.decoder : Decoder Check :=
  (Record.of Check.mk)
    |>.required "datacenter" .string
    |>.required "name" .string
    |>.optional "command" .string
    |>.required "subscribers" (.list .string)
    |>.optional "interval" .u64
    |>.required "standalone" .bool
    |>.opened "Check"

/-- Reads a client. -/
def Client.decoder : Decoder Client :=
  (Record.of Client.mk)
    |>.required "datacenter" .string
    |>.required "name" .string
    |>.optional "address" .string
    |>.required "subscriptions" (.list .string)
    |>.optional "version" .string
    |>.optional "last_seen" Instant.decoder
    |>.opened "Client"

/-- Reads an event. -/
def Event.decoder : Decoder Event :=
  (Record.of Event.mk)
    |>.required "datacenter" .string
    |>.optional "id" .string
    |>.required "client" .string
    |>.required "check" .string
    |>.required "severity" Severity.decoder
    |>.optional "output" .string
    |>.required "occurrences" .u64
    |>.optional "action" .string
    |>.required "silenced" .bool
    |>.optional "timestamp" Instant.decoder
    |>.required "client_subscriptions" (.list .string)
    |>.required "check_subscribers" (.list .string)
    |>.opened "Event"

/-- Reads an aggregate. -/
def Aggregate.decoder : Decoder Aggregate :=
  (Record.of Aggregate.mk)
    |>.required "datacenter" .string
    |>.required "name" .string
    |>.opened "Aggregate"

/-- Reads a stash. -/
def Stash.decoder : Decoder Stash :=
  (Record.of Stash.mk)
    |>.required "datacenter" .string
    |>.required "path" .string
    |>.required "content" .bag
    |>.optional "expire" .i64
    |>.closed "Stash"

/-- Reads a silence entry. -/
def Silence.decoder : Decoder Silence :=
  (Record.of Silence.mk)
    |>.required "datacenter" .string
    |>.required "id" .string
    |>.optional "subscription" .string
    |>.optional "check" .string
    |>.optional "reason" .string
    |>.optional "creator" .string
    |>.optional "expire" .i64
    |>.required "expire_on_resolve" .bool
    |>.opened "Silence"

/-- Reads a subscription. -/
def Subscription.decoder : Decoder Subscription :=
  (Record.of Subscription.mk)
    |>.required "datacenter" .string
    |>.required "name" .string
    |>.required "client_count" .usize
    |>.closed "Subscription"

/-- Reads an object of a kind. -/
def Object.decoder : Kind → Decoder Object
  | .check => Check.decoder.map .check
  | .client => Client.decoder.map .client
  | .event => Event.decoder.map .event
  | .aggregate => Aggregate.decoder.map .aggregate
  | .stash => Stash.decoder.map .stash
  | .silence => Silence.decoder.map .silence
  | .subscription => Subscription.decoder.map .subscription

/-! ### Writing -/

/-- Writes a check. -/
def Check.toJson (check : Check) : Json :=
  .object <|
    [("datacenter", .string check.datacenter),
     ("name", .string check.name),
     ("command", .text? check.command),
     ("subscribers", .strings check.subscribers),
     ("interval", .nat? check.interval),
     ("standalone", .bool check.standalone)] ++ check.extra

/-- Writes a client. -/
def Client.toJson (client : Client) : Json :=
  .object <|
    [("datacenter", .string client.datacenter),
     ("name", .string client.name),
     ("address", .text? client.address),
     ("subscriptions", .strings client.subscriptions),
     ("version", .text? client.version),
     ("last_seen", .instant? client.lastSeen)] ++ client.extra

/-- Writes an event. -/
def Event.toJson (event : Event) : Json :=
  .object <|
    [("datacenter", .string event.datacenter),
     ("id", .text? event.id),
     ("client", .string event.client),
     ("check", .string event.check),
     ("severity", .string event.severity.name),
     ("output", .text? event.output),
     ("occurrences", .nat event.occurrences),
     ("action", .text? event.action),
     ("silenced", .bool event.silenced),
     ("timestamp", .instant? event.timestamp),
     ("client_subscriptions", .strings event.clientSubscriptions),
     ("check_subscribers", .strings event.checkSubscribers)] ++ event.extra

/-- Writes an aggregate. -/
def Aggregate.toJson (aggregate : Aggregate) : Json :=
  .object <|
    [("datacenter", .string aggregate.datacenter), ("name", .string aggregate.name)] ++
      aggregate.extra

/-- Writes a stash. -/
def Stash.toJson (stash : Stash) : Json :=
  .object
    [("datacenter", .string stash.datacenter),
     ("path", .string stash.path),
     ("content", .object stash.content),
     ("expire", .int? stash.expire)]

/-- Writes a silence entry. -/
def Silence.toJson (silence : Silence) : Json :=
  .object <|
    [("datacenter", .string silence.datacenter),
     ("id", .string silence.id),
     ("subscription", .text? silence.subscription),
     ("check", .text? silence.check),
     ("reason", .text? silence.reason),
     ("creator", .text? silence.creator),
     ("expire", .int? silence.expire),
     ("expire_on_resolve", .bool silence.expireOnResolve)] ++ silence.extra

/-- Writes a subscription. -/
def Subscription.toJson (subscription : Subscription) : Json :=
  .object
    [("datacenter", .string subscription.datacenter),
     ("name", .string subscription.name),
     ("client_count", .nat subscription.clientCount)]

/-- Writes an object. Its kind is not part of the text. -/
def Object.toJson : Object → Json
  | .check object => object.toJson
  | .client object => object.toJson
  | .event object => object.toJson
  | .aggregate object => object.toJson
  | .stash object => object.toJson
  | .silence object => object.toJson
  | .subscription object => object.toJson

end FleetView
