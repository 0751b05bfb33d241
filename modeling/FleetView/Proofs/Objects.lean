/-
This file is about monitoring objects as JSON. An object is written as the members that
its kind declares with its bag behind them. The members alone are always decoded to the
fields of the object again, so all depends on the bag: where no name in it is declared,
the whole is decoded to the object, and where one is, that member is written twice and the
whole is decoded to nothing. The names in question are those that the kind declares and the
report that the object came from does not, since all others never reach the bag.
-/

import Mathlib
import FleetView.Object.Codec
import FleetView.Object.Tagging
import FleetView.Proofs.Timestamps
import FleetView.Proofs.Wire

namespace FleetView

/-! ### Declared members -/

namespace Kind

/-- The members that objects of a kind declare, in order. -/
def fields : Kind → List String
  | .check => ["datacenter", "name", "command", "subscribers", "interval", "standalone"]
  | .client => ["datacenter", "name", "address", "subscriptions", "version", "last_seen"]
  | .event =>
    ["datacenter", "id", "client", "check", "severity", "output", "occurrences", "action",
      "silenced", "timestamp", "client_subscriptions", "check_subscribers"]
  | .aggregate => ["datacenter", "name"]
  | .stash => ["datacenter", "path", "content", "expire"]
  | .silence =>
    ["datacenter", "id", "subscription", "check", "reason", "creator", "expire",
      "expire_on_resolve"]
  | .subscription => ["datacenter", "name", "client_count"]

/-- The members that the reports of a kind declare. -/
def reported : Kind → List String
  | .check => Report.Form.check.fields
  | .client => Report.Form.client.fields
  | .event => Report.Form.event.fields
  | .aggregate => Report.Form.aggregate.fields
  | .stash => Report.Form.stash.fields
  | .silence => Report.Form.silence.fields
  | .subscription => []

/-- The members that objects of a kind declare and their reports do not. -/
def added (kind : Kind) : List String := kind.fields.filter (· ∉ kind.reported)

example : event.added =
    ["datacenter", "severity", "output", "client_subscriptions", "check_subscribers"] := by
  decide

/-- No report says which datacenter it comes from. -/
theorem datacenter_mem_added (kind : Kind) : "datacenter" ∈ kind.added := by
  cases kind <;> decide

theorem nodup_fields (kind : Kind) : kind.fields.Nodup := by
  cases kind <;> decide

end Kind

namespace Object

/-- The members that an object has taken over without knowing them. -/
def bag : Object → Bag
  | .check object => object.extra
  | .client object => object.extra
  | .event object => object.extra
  | .aggregate object => object.extra
  | .silence object => object.extra
  | .stash _ | .subscription _ => []

/-- No name in the bag is one that the kind declares. -/
def Unmixed (object : Object) : Prop := ∀ entry ∈ object.bag, entry.1 ∉ object.kind.fields

/-- What can be said of the members that an object is written as before its bag is known. -/
structure Spelled (sort : Number → Prop) (room : Nat) (object : Object)
    (entries : List (String × Json)) : Prop where
  json : object.toJson =
    .object (("datacenter", .string object.datacenter) :: entries ++ object.bag)
  names : "datacenter" :: entries.map Prod.fst = object.kind.fields
  legible : (Document.ofJson object.toJson).Legible sort (room + 1)
  strange : Record.Strange object.kind.reported sort room object.bag
  decoded : object.Unmixed →
    (Object.decoder object.kind).Stands sort (room + 1) object.toJson object
  refused : ¬ object.Unmixed → ∀ other,
    Object.decoder object.kind .text (Document.ofJson object.toJson) ≠ .ok other

end Object

open Decoder Record

variable {sort : Number → Prop} {room : Nat}

theorem Decoder.Stands.map {α β : Type} {decoder : Decoder α} {written : Json} {value : α}
    (stands : decoder.Stands sort room written value) (change : α → β) :
    (decoder.map change).Stands sort room written (change value) :=
  ⟨stands.legible, stands.distinct, map_eq_ok_iff.mpr ⟨value, stands.recovered, rfl⟩⟩

namespace Object

/-- An object of a kind that has a bag. -/
theorem spelled_of_opened {α : Type} {record : Record (Bag → α)} {title : String}
    {wrap : α → Object} {entries : List (String × Json)} {build : Bag → α} {object : Object}
    (spells : record.Spells sort room (("datacenter", .string object.datacenter) :: entries) build)
    (strange : Record.Strange object.kind.reported sort room object.bag)
    (names : "datacenter" :: entries.map Prod.fst = object.kind.fields)
    (declared : record.names = object.kind.fields)
    (json : object.toJson =
      .object (("datacenter", .string object.datacenter) :: entries ++ object.bag))
    (decoder : Object.decoder object.kind = (record.opened title).map wrap)
    (same : wrap (build object.bag) = object) :
    object.Spelled sort room entries := by
  refine ⟨json, names, ?_, strange, fun unmixed => ?_, fun mixed other => ?_⟩
  · rw [json]
    refine Document.legible_ofJson_object_iff.mpr (List.forall_mem_append.mpr ⟨spells.legible, ?_⟩)
    exact fun entry held => (strange.stands entry held).legible
  · have unknown : Strange record.names sort room object.bag :=
      ⟨strange.ascending, strange.stands, declared ▸ unmixed⟩
    have stands : ((record.opened title).map wrap).Stands sort (room + 1)
        (.object (("datacenter", .string object.datacenter) :: entries ++ object.bag))
        (wrap (build object.bag)) :=
      (spells.opened (declared ▸ object.kind.nodup_fields) unknown).map wrap
    rwa [same, ← decoder, ← json] at stands
  · rw [decoder, json]
    intro decoded
    obtain ⟨value, opened, -⟩ := map_eq_ok_iff.mp decoded
    refine opened_ne_ok (fun once => mixed fun entry held field => ?_) value opened
    have written :
        entry.1 ∈ (("datacenter", Json.string object.datacenter) :: entries).map Prod.fst := by
      show entry.1 ∈ "datacenter" :: entries.map Prod.fst
      rwa [names]
    rw [List.map_append, List.filter_append] at once
    have known : decide (entry.1 ∈ record.names) = true := decide_eq_true (declared ▸ field)
    have apart := (List.nodup_append.mp once).2.2
    refine apart entry.1 (List.mem_filter.mpr ⟨written, known⟩) entry.1 ?_ rfl
    exact List.mem_filter.mpr ⟨List.mem_map_of_mem held, known⟩

/-- An object of a kind without a bag. -/
theorem spelled_of_closed {α : Type} {record : Record α} {title : String} {wrap : α → Object}
    {entries : List (String × Json)} {value : α} {object : Object}
    (spells : record.Spells sort room (("datacenter", .string object.datacenter) :: entries) value)
    (names : "datacenter" :: entries.map Prod.fst = object.kind.fields)
    (declared : record.names = object.kind.fields) (empty : object.bag = [])
    (json : object.toJson = .object (("datacenter", .string object.datacenter) :: entries))
    (decoder : Object.decoder object.kind = (record.closed title).map wrap)
    (same : wrap value = object) : object.Spelled sort room entries := by
  have stands : ((record.closed title).map wrap).Stands sort (room + 1)
      (.object (("datacenter", .string object.datacenter) :: entries)) (wrap value) :=
    (spells.closed (declared ▸ object.kind.nodup_fields)).map wrap
  rw [same, ← decoder, ← json] at stands
  refine ⟨?_, names, stands.legible, ?_, fun _ => stands, fun mixed => absurd ?_ mixed⟩
  · rw [json, empty, List.append_nil]
  · rw [empty]
    exact ⟨.nil, nofun, nofun⟩
  · rw [Unmixed, empty]
    exact nofun

end Object

/-! ### Fields -/

theorem stands_severity (severity : Severity) :
    Severity.decoder.Stands sort room (.string severity.name) severity := by
  have recovered : ∀ severity : Severity,
      (Severity.decoder .text (.string severity.name)).toOption = some severity := by
    rintro (_ | _ | _ | _) <;> decide +kernel
  exact stands_of_flat rfl rfl rfl nofun (eq_ok_of_toOption_eq_some (recovered severity))

/-- The point in time of a number of seconds, where there is one. -/
theorem stands_instant (seconds : Option Int) :
    Instant.decoder.optional.Stands sort room (.instant? (Report.instant? seconds))
      (Report.instant? seconds) := by
  cases moment : Report.instant? seconds with
  | none => exact stands_none
  | some instant =>
    obtain ⟨count, -, made⟩ := Option.bind_eq_some_iff.mp moment
    have single : Instant.decoder.Stands sort room (.string instant.text) instant := by
      refine stands_of_flat rfl rfl rfl (fun number same => by cases same) ?_
      rw [Document.ofJson, Instant.decoder, Instant.parse_text_of_ofEpoch? made]
    exact single.some (by simp)

namespace Object

variable (owner : String)

theorem spelled_check {check : Report.Check} (writable : check.Writable sort (room + 1)) :
    ∃ entries, (Object.check (check.tagged owner)).Spelled sort (room + 1) entries := by
  refine ⟨_, spelled_of_opened (.next (.next (.next (.next (.next (.next (fun _ => spells_of _)
    (stands_string owner)) (stands_string check.name)) (stands_text check.command))
    (stands_strings check.subscribers)) writable.interval) (stands_bool check.standalone)
    ?_) writable.extra rfl rfl rfl rfl rfl⟩
  decide

theorem spelled_client {client : Report.Client}
    (writable : Report.Bagged .client Report.Client.extra sort (room + 1) client) :
    ∃ entries, (Object.client (client.tagged owner)).Spelled sort (room + 1) entries := by
  refine ⟨_, spelled_of_opened (.next (.next (.next (.next (.next (.next (fun _ => spells_of _)
    (stands_string owner)) (stands_string client.name)) (stands_text client.address))
    (stands_strings client.subscriptions)) (stands_text client.version))
    (stands_instant client.timestamp) ?_) writable rfl rfl rfl rfl rfl⟩
  decide

theorem spelled_event {event : Report.Event} (writable : event.Writable sort (room + 1)) :
    ∃ entries, (Object.event (event.tagged owner)).Spelled sort (room + 1) entries := by
  refine ⟨_, spelled_of_opened (.next (.next (.next (.next (.next (.next (.next (.next (.next
    (.next (.next (.next (fun _ => spells_of _) (stands_string owner)) (stands_text event.id))
    (stands_string event.client.name)) (stands_string event.check.name))
    (stands_severity (Severity.ofStatus event.check.status))) (stands_text event.check.output))
    writable.occurrences) (stands_text event.action)) (stands_bool event.silenced))
    (stands_instant event.timestamp)) (stands_strings event.client.subscriptions))
    (stands_strings event.check.subscribers) ?_) writable.extra rfl rfl rfl rfl rfl⟩
  decide

theorem spelled_aggregate {aggregate : Report.Aggregate}
    (writable : Report.Bagged .aggregate Report.Aggregate.extra sort room aggregate) :
    ∃ entries, (Object.aggregate (aggregate.tagged owner)).Spelled sort room entries := by
  refine ⟨_, spelled_of_opened (.next (.next (fun _ => spells_of _) (stands_string owner))
    (stands_string aggregate.name) ?_) writable rfl rfl rfl rfl rfl⟩
  decide

theorem spelled_stash {stash : Report.Stash} (writable : stash.Writable sort room) :
    ∃ entries, (Object.stash (stash.tagged owner)).Spelled sort room entries := by
  refine ⟨_, spelled_of_closed (.next (.next (.next (.next (fun _ => spells_of _)
    (stands_string owner)) (stands_string stash.path)) writable.content) writable.expire ?_)
    rfl rfl rfl rfl rfl rfl⟩
  decide

theorem spelled_silence {silence : Report.Silence} (writable : silence.Writable sort room) :
    ∃ entries, (Object.silence (silence.tagged owner)).Spelled sort room entries := by
  refine ⟨_, spelled_of_opened (.next (.next (.next (.next (.next (.next (.next (.next
    (fun _ => spells_of _) (stands_string owner)) (stands_string silence.id))
    (stands_text silence.subscription)) (stands_text silence.check)) (stands_text silence.reason))
    (stands_text silence.creator)) writable.expire) (stands_bool silence.expireOnResolve) ?_)
    writable.extra rfl rfl rfl rfl rfl⟩
  decide

theorem spelled_subscription {subscription : Subscription}
    (counted : (natural "usize").Stands sort room (.nat subscription.clientCount)
      subscription.clientCount) :
    ∃ entries, (Object.subscription subscription).Spelled sort room entries := by
  refine ⟨_, spelled_of_closed (.next (.next (.next (fun _ => spells_of _)
    (stands_string subscription.datacenter)) (stands_string subscription.name)) counted ?_)
    rfl rfl rfl rfl rfl rfl⟩
  decide

end Object

end FleetView
