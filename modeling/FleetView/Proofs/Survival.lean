/-
This file follows the members that nothing declares. A report that a datacenter sends may
say more than is known of its kind, and whatever it says is to be found in what the object
of the report is written as. Reports of five kinds take unknown members along in a bag, the
last one of each name, and their objects write the bag behind their own members, so it all
comes through. Stashes have no bag: what a stash says beside its path, its content and its
end is lost on the way.
-/

import FleetView.Proofs.Arrivals
import FleetView.Proofs.Losses
import FleetView.Proofs.Ownership
import FleetView.Proofs.Replacing

namespace FleetView

open Decoder Record

/-- An object tells a value under a name: the last member of that name comes to it. -/
def Document.Tells (item : Document) (name : String) (value : Json) : Prop :=
  ∃ members ending, item = .object members ending ∧
    ∃ content, lookup members.reverse name = some content ∧ content.toJson = .ok value

/-! ### Bags of open records -/

namespace Record

variable {α β : Type}

/-- All that a record puts together from members fits. -/
def Builds (record : Record α) (fits : α → Prop) : Prop :=
  ∀ source find value, record.fromMembers source find = .ok value → fits value

theorem builds_of {fits : α → Prop} {value : α} (fit : fits value) :
    (Record.of value).Builds fits :=
  fun _ _ _ built => Except.ok.inj built ▸ fit

/-- Whatever is put into one more field fits. -/
theorem Builds.field {record : Record (α → β)} {fits : β → Prop} {name : String}
    {absence : Absence α} {decoder : Decoder α}
    (before : record.Builds fun build => ∀ value, fits (build value)) :
    (record.field name absence decoder).Builds fits := by
  intro source find result built
  obtain ⟨build, made, value, -, rfl⟩ := fromMembers_field_eq_ok_iff.mp built
  exact before source find build made value

/-- Where a record puts its bag into a field, the field has what is told under unknown names. -/
theorem get?_eq_some_iff_tells {record : Record (Bag → α)} (bag : α → Bag) {title : String}
    {item : Document} {value : α} (decoded : record.opened title .text item = .ok value)
    (keeps : record.Builds fun build => ∀ extra, bag (build extra) = extra)
    {name : String} (unknown : name ∉ record.names) {told : Json} :
    (bag value).get? name = some told ↔ item.Tells name told := by
  obtain ⟨members, ending, build, rfl, made, rfl⟩ := opened_eq_ok_iff.mp decoded
  obtain ⟨walked, -, built⟩ := decodeObject_eq_ok_iff.mp made
  rw [keeps _ _ _ built, get?_strangers (walk_eq_ok_iff.mp walked).1 unknown,
    Option.bind_eq_some_iff]
  constructor
  · rintro ⟨content, found, walked⟩
    exact ⟨members, ending, rfl, content, found, eq_ok_of_toOption_eq_some walked⟩
  · rintro ⟨_, _, ⟨⟩, content, found, walked⟩
    exact ⟨content, found, congrArg Except.toOption walked⟩

end Record

/-! ### From items to objects -/

/-- What an object is written as has the value under the name. -/
def Object.Shows (object : Object) (name : String) (value : Json) : Prop :=
  object.toJson.tidy.field? name = some value

namespace Endpoint

/-- An item tells a value under a name that reports of its endpoint do not declare. -/
def TellsUnknown (endpoint : Endpoint) (item : Document) (name : String) (value : Json) : Prop :=
  name ∉ endpoint.kind.reported ∧ item.Tells name value

variable {endpoint : Endpoint} {item : Document} {report : endpoint.Item} {name : String}
  {value : Json} (datacenter : String)

/-- The bag of the object has what its report tells under unknown names, unless it is a stash. -/
theorem get?_bag_iff (decoded : endpoint.decoder .text item = .ok report)
    (other : endpoint ≠ .stashes) (unknown : name ∉ endpoint.kind.reported) :
    (endpoint.object datacenter report).bag.get? name = some value ↔ item.Tells name value := by
  cases endpoint with
  | checks =>
    exact get?_eq_some_iff_tells Report.Check.extra decoded
      (.field (.field (.field (.field (.field (builds_of fun _ _ _ _ _ _ => rfl)))))) unknown
  | clients =>
    exact get?_eq_some_iff_tells Report.Client.extra decoded
      (.field (.field (.field (.field (.field (builds_of fun _ _ _ _ _ _ => rfl)))))) unknown
  | events =>
    exact get?_eq_some_iff_tells Report.Event.extra decoded
      (.field (.field (.field (.field (.field (.field (.field
        (builds_of fun _ _ _ _ _ _ _ _ => rfl)))))))) unknown
  | aggregates =>
    exact get?_eq_some_iff_tells Report.Aggregate.extra decoded
      (.field (builds_of fun _ _ => rfl)) unknown
  | stashes => exact absurd rfl other
  | silenced =>
    exact get?_eq_some_iff_tells Report.Silence.extra decoded
      (.field (.field (.field (.field (.field (.field (.field
        (builds_of fun _ _ _ _ _ _ _ _ => rfl)))))))) unknown

end Endpoint

/-- A stash is written with its datacenter, and with nothing else that its report does not
declare. -/
theorem Object.shows_stash_iff {stash : Stash} {name : String} {value : Json}
    (unknown : name ∉ Kind.stash.reported) :
    (Object.stash stash).Shows name value ↔
      name = "datacenter" ∧ value = .string stash.datacenter := by
  have others : "expire" ≠ name ∧ "content" ≠ name ∧ "path" ≠ name := by
    refine ⟨?_, ?_, ?_⟩ <;> rintro rfl <;> exact unknown (by decide)
  show Bag.get? (Bag.ofMembers (Json.tidyMembers _)) name = some value ↔ _
  rw [Bag.get?_ofMembers, Json.tidyMembers_eq_map]
  simp only [List.map_cons, List.map_nil, List.reverse_cons, List.reverse_nil, List.nil_append,
    List.cons_append, Bag.get?_cons, if_neg others.1, if_neg others.2.1, if_neg others.2.2]
  by_cases same : "datacenter" = name
  · rw [if_pos same, Option.some.injEq, and_iff_right same.symm, eq_comm]
    rfl
  · rw [if_neg same]
    exact iff_of_false nofun fun both => same both.1.symm

namespace Endpoint

variable {endpoint : Endpoint} {item : Document} {report : endpoint.Item} {datacenter : String}

/-- Whatever an item tells under names that are unknown is shown by an object. -/
def Carries (endpoint : Endpoint) (item : Document) (object : Object) : Prop :=
  ∀ name value, endpoint.TellsUnknown item name value → object.Shows name value

/-- Unknown members come through, unless they are those of a stash: of these there must be none but
one that says of the stash which datacenter it belongs to. -/
theorem carries_iff (legible : item.Legible (fun _ => True) 126)
    (decoded : endpoint.decoder .text item = .ok report) :
    endpoint.Carries item (endpoint.object datacenter report) ↔
      (endpoint = .stashes → ∀ name value, endpoint.TellsUnknown item name value →
        name = "datacenter" ∧ value = .string datacenter) := by
  by_cases stashed : endpoint = .stashes
  · subst stashed
    refine ⟨fun carries _ name value told => ?_, fun only name value told => ?_⟩
    · exact (Object.shows_stash_iff told.1).mp (carries name value told)
    · exact (Object.shows_stash_iff told.1).mpr (only rfl name value told)
  · refine iff_of_true (fun name value told => ?_) fun same => absurd same stashed
    obtain ⟨entries, spelled⟩ := exists_spelled datacenter (fun _ _ => trivial) legible decoded
    have held := (get?_bag_iff datacenter decoded stashed told.1).mpr told.2
    rw [Object.Shows, spelled.field?_tidy, held, Option.some_or]

/-- An item of a list with its report, where no report before it has the key of this one. -/
def Kept (endpoint : Endpoint) (datacenter : String) (items : List Document)
    (reports : List endpoint.Item) (item : Document) (report : endpoint.Item) : Prop :=
  ∃ place, items[place]? = some item ∧ reports[place]? = some report ∧
    ∀ earlier ∈ reports.take place,
      (endpoint.object datacenter earlier).key ≠ (endpoint.object datacenter report).key

theorem Kept.mem_objects {items : List Document} {fetched : Fetched}
    (kept : endpoint.Kept datacenter items (endpoint.items fetched) item report) :
    endpoint.object datacenter report ∈
      (Collections.ofFetched datacenter fetched).objects endpoint.kind := by
  obtain ⟨place, -, there, first⟩ := kept
  rw [objects_ofFetched, withoutRepeats_eq_firsts fun _ _ _ _ => Iff.rfl, mem_firsts_iff]
  refine ⟨place, ?_, ?_⟩
  · rw [List.getElem?_map, there]
    rfl
  · rw [← List.map_take, List.map_map, List.mem_map]
    rintro ⟨earlier, before, same⟩
    exact first earlier before same

theorem Kept.decoded {items : List Document} {reports : List endpoint.Item}
    (kept : endpoint.Kept datacenter items reports item report)
    (read : List.Forall₂ (fun item report => endpoint.decoder .text item = .ok report) items
      reports) : item ∈ items ∧ endpoint.decoder .text item = .ok report := by
  obtain ⟨place, itemThere, reportThere, -⟩ := kept
  obtain ⟨here, itemSame⟩ := List.getElem?_eq_some_iff.mp itemThere
  obtain ⟨there, reportSame⟩ := List.getElem?_eq_some_iff.mp reportThere
  exact ⟨List.mem_of_getElem? itemThere, itemSame ▸ reportSame ▸ read.get here there⟩

end Endpoint

/-! ### Polls -/

/-- What becomes of an item in a snapshot. -/
structure Endpoint.Arrives (endpoint : Endpoint) (datacenter : String) (snapshot : Snapshot)
    (item : Document) (object : Object) : Prop where
  listed : object ∈ snapshot.list endpoint.kind
  owned : object.datacenter = datacenter
  carried : endpoint.Carries item object ↔
    (endpoint = .stashes → ∀ name value, endpoint.TellsUnknown item name value →
      name = "datacenter" ∧ value = .string datacenter)
  /-- Where numbers are integers, the text of the object says what the object is written as. -/
  printed : item.Whole → Json.parse object.toJson.compact = .ok object.toJson.tidy

namespace Dashboard

variable {setup : Setup} {dashboard : Dashboard}

/-- After a poll that gets through, each item of the six replies that repeats no earlier key is an
object of the snapshot. What the item tells under names that its kind of report does not declare is
shown by that object, with the last value of each name and whatever is nested in it, unless the item
is a stash: what stashes tell under such names is lost. -/
theorem unknown_members_carried_iff (reached : Reachable setup dashboard) {datacenter : Datacenter}
    (registered : datacenter ∈ setup.registry.datacenters) {networks : Networks}
    {fetched : Fetched}
    (delivers : (datacenter.backend setup.policy).connection.Delivers (networks datacenter.name)
      fetched) (now : Instant) (endpoint : Endpoint) :
    ∃ items,
      (datacenter.backend setup.policy).connection.Replies (networks datacenter.name) endpoint
        items ∧
      List.Forall₂ (fun item report => endpoint.decoder .text item = .ok report) items
        (endpoint.items fetched) ∧
      ∀ item report, endpoint.Kept datacenter.name items (endpoint.items fetched) item report →
        endpoint.Arrives datacenter.name (dashboard.pollOnce networks now).snapshot item
          (endpoint.object datacenter.name report) := by
  obtain ⟨items, replies, read, legible⟩ :=
    (Connection.delivers_iff.mp delivers endpoint).exists_items
  refine ⟨items, replies, read, fun item report kept => ?_⟩
  obtain ⟨listed, decoded⟩ := kept.decoded read
  have there := reached.slice?_pollOnce_of_delivers registered delivers now
  have sliced := ((reached.pollOnce networks now).sound.slice?_eq_some_iff.mp there).1
  have member := kept.mem_objects
  refine ⟨Snapshot.mem_list_iff.mpr ⟨_, sliced, member⟩,
    (Collections.ofFetched_sound _ _).tagged _ _ member,
    Endpoint.carries_iff (legible item listed) decoded, fun whole => ?_⟩
  obtain ⟨_, spelled⟩ := Endpoint.exists_spelled datacenter.name (fun _ _ => trivial)
    (legible item listed) decoded
  obtain ⟨_, integral⟩ := Endpoint.exists_spelled datacenter.name (fun _ => id)
    ⟨(legible item listed).shallow, whole⟩ decoded
  exact spelled.parse_compact integral.legible.numbers

end Dashboard

namespace Sample

/-- Where a client stands. -/
def rack : Json := .object [("rack", .array [.int 7, .null])]

/-- The report of a client that says twice where it stands, and of another one of its name. -/
def zonedClients : Json :=
  .array
    [.object [("zone", .int 1), ("name", .string "web"), ("zone", rack)],
     .object [("name", .string "web"), ("zone", .int 2)]]

/-- What a poll finds where there are these clients. -/
def zonedFetched : Fetched :=
  ⟨[], [⟨"web", none, [], none, none, [("zone", rack)]⟩,
    ⟨"web", none, [], none, none, [("zone", .int 2)]⟩], [], [], [], []⟩

/-- A stash that says where it stands. -/
def zonedStash : Json := .object [("path", .string "a"), ("zone", .int 1)]

/-- What a poll finds where there is that stash. -/
def stashFetched : Fetched := ⟨[], [], [], [], [⟨"a", [], none⟩], []⟩

end Sample

namespace Dashboard

/-- The last zone of the first client is shown. -/
theorem unknown_members_carried_iff_zone :
    Reachable Sample.setup Sample.fresh ∧ Sample.east ∈ Sample.setup.registry.datacenters ∧
      (Sample.east.backend Sample.setup.policy).connection.Delivers
        (Sample.reporting "clients" Sample.zonedClients.compact "east") Sample.zonedFetched ∧
      ∃ object ∈ (Sample.fresh.pollOnce (Sample.reporting "clients" Sample.zonedClients.compact)
          ⟨1, 0⟩).snapshot.list .client,
        object.datacenter = "east" ∧ object.key = "web" ∧ object.Shows "zone" Sample.rack := by
  have registered : Sample.east ∈ Sample.setup.registry.datacenters := List.mem_singleton_self _
  have delivers : (Sample.east.backend Sample.setup.policy).connection.Delivers
      (Sample.reporting "clients" Sample.zonedClients.compact Sample.east.name)
      Sample.zonedFetched :=
    Backend.poll_eq_ok_iff.mp (eq_ok_of_toOption_eq_some (by decide +kernel))
  obtain ⟨items, -, read, each⟩ :=
    unknown_members_carried_iff Sample.reachable_fresh registered delivers ⟨1, 0⟩ .clients
  obtain ⟨item, others, decoded, -, rfl⟩ := List.forall₂_cons_right_iff.mp read
  have arrives := each item _ ⟨0, rfl, rfl, nofun⟩
  have told := (Endpoint.get?_bag_iff "east" decoded nofun (by decide)).mp
    (rfl : Bag.get? [("zone", Sample.rack)] "zone" = some Sample.rack)
  exact ⟨Sample.reachable_fresh, registered, delivers, _, arrives.listed, arrives.owned, rfl,
    arrives.carried.mpr nofun _ _ ⟨by decide, told⟩⟩

/-- The zone of a stash is not shown. -/
theorem stash_zone_lost :
    Reachable Sample.setup Sample.fresh ∧ Sample.east ∈ Sample.setup.registry.datacenters ∧
      (Sample.east.backend Sample.setup.policy).connection.Delivers
        (Sample.reporting "stashes" (Json.array [Sample.zonedStash]).compact "east")
        Sample.stashFetched ∧
      (Sample.east.backend Sample.setup.policy).connection.Replies
        (Sample.reporting "stashes" (Json.array [Sample.zonedStash]).compact "east") .stashes
        [Document.ofJson Sample.zonedStash] ∧
      Endpoint.stashes.Kept "east" [Document.ofJson Sample.zonedStash] Sample.stashFetched.stashes
        (Document.ofJson Sample.zonedStash) ⟨"a", [], none⟩ ∧
      Endpoint.stashes.TellsUnknown (Document.ofJson Sample.zonedStash) "zone" (.int 1) ∧
      (Document.ofJson Sample.zonedStash).Whole ∧
      .stash ⟨"east", "a", [], none⟩ ∈ (Sample.fresh.pollOnce (Sample.reporting "stashes"
        (Json.array [Sample.zonedStash]).compact) ⟨1, 0⟩).snapshot.list .stash ∧
      ∀ value, ¬ (Object.stash ⟨"east", "a", [], none⟩).Shows "zone" value := by
  have delivers : (Sample.east.backend Sample.setup.policy).connection.Delivers
      (Sample.reporting "stashes" (Json.array [Sample.zonedStash]).compact Sample.east.name)
      Sample.stashFetched :=
    Backend.poll_eq_ok_iff.mp (eq_ok_of_toOption_eq_some (by decide +kernel))
  have registered : Sample.east ∈ Sample.setup.registry.datacenters := List.mem_singleton_self _
  refine ⟨Sample.reachable_fresh, registered, delivers, ?_, ⟨0, rfl, rfl, nofun⟩,
    ⟨by decide, _, _, rfl, _, rfl, rfl⟩, by decide +kernel, ?_, fun value shown => ?_⟩
  · obtain ⟨request, made, replied⟩ := Sample.exists_asking
      (Sample.reporting "stashes" (Json.array [Sample.zonedStash]).compact "east") .stashes
      (.reply 200 (Text.Utf8.encode (Json.array [Sample.zonedStash]).compact)) (by decide +kernel)
    refine ⟨request, _, _, .closed, made, replied, ?_⟩
    have whole : (Document.ofJson (.array [Sample.zonedStash])).Whole := by decide +kernel
    have legible : (Document.ofJson (.array [Sample.zonedStash])).Legible Number.Whole
        JsonText.depthLimit := ⟨by decide +kernel, whole⟩
    rw [Text.Utf8.decodeLossy_encode, Document.read_compact legible]
    rfl
  · have there := Sample.reachable_fresh.slice?_pollOnce_of_delivers registered delivers ⟨1, 0⟩
    have sound := (Sample.reachable_fresh.pollOnce (Sample.reporting "stashes"
      (Json.array [Sample.zonedStash]).compact) ⟨1, 0⟩).sound
    exact Snapshot.mem_list_iff.mpr ⟨_, (sound.slice?_eq_some_iff.mp there).1, by decide +kernel⟩
  · have only := (Object.shows_stash_iff (by decide)).mp shown
    exact absurd only.1 (by decide)

end Dashboard

end FleetView
