/-
This file proves when the text of an object keeps its owner and is read back. A poll
decodes reports, tags them with the datacenter that was asked, and carries unknown
members along in the bag. The report has no member for its datacenter, so a remote that
sends one has it carried along behind the one that the object declares, and the same goes
for the other members that objects declare and reports do not. The text of an object then
names such a member twice and is no text of the object any more; if the member is the
datacenter, the object is told as one of whom the remote says. Without such members the
text repeats no name, tells the datacenter that was asked, and is decoded to the object it
was printed from.
-/

import FleetView.Proofs.Endpoints
import FleetView.Proofs.Objects
import FleetView.Proofs.Wellformed

namespace FleetView

open Decoder Record

/-! ### Objects with their members -/

/-- Where names differ, looking up finds what is there. -/
theorem Bag.get?_eq_some_iff {bag : Bag} (different : (bag.map Prod.fst).Nodup) {name : String}
    {value : Json} : bag.get? name = some value ↔ (name, value) ∈ bag := by
  rw [get?, Option.map_eq_some_iff]
  constructor
  · rintro ⟨entry, found, rfl⟩
    obtain ⟨held, rfl⟩ := (find?_eq_some_iff_of_nodup different).mp found
    exact held
  · exact fun held => ⟨_, (find?_eq_some_iff_of_nodup different).mpr ⟨held, rfl⟩, rfl⟩

namespace Object

/-- No name in the bag is one that the kind declares and its reports do not. -/
def Unshadowed (object : Object) : Prop := ∀ entry ∈ object.bag, entry.1 ∉ object.kind.added

namespace Spelled

variable {sort : Number → Prop} {room : Nat} {object : Object} {entries : List (String × Json)}

/-- Names that reports declare are in no bag, so it is enough to look at the others. -/
theorem unmixed_iff (spelled : object.Spelled sort room entries) :
    object.Unmixed ↔ object.Unshadowed := by
  refine forall_congr' fun entry => imp_congr_right fun held => not_congr ?_
  have unreported := spelled.strange.unknown entry held
  rw [Kind.added, List.mem_filter, decide_eq_true_iff, and_iff_left unreported]

theorem distinct_iff (spelled : object.Spelled sort room entries) :
    (Document.ofJson object.toJson).Distinct ↔ object.Unshadowed := by
  rw [← spelled.unmixed_iff]
  refine ⟨fun distinct entry held field => ?_, fun unmixed => (spelled.decoded unmixed).distinct⟩
  rw [spelled.json, Document.distinct_ofJson_object_iff, List.map_append] at distinct
  refine (List.nodup_append.mp distinct.1).2.2 entry.1 ?_ entry.1 (List.mem_map_of_mem held) rfl
  show entry.1 ∈ "datacenter" :: entries.map Prod.fst
  rwa [spelled.names]

theorem recovered_iff (spelled : object.Spelled sort room entries) :
    Object.decoder object.kind .text (Document.ofJson object.toJson) = .ok object ↔
      object.Unshadowed := by
  rw [← spelled.unmixed_iff]
  refine ⟨fun decoded => ?_, fun unmixed => (spelled.decoded unmixed).recovered⟩
  by_contra mixed
  exact spelled.refused mixed object decoded

/-- As a value, the object has what the bag has under a name, and what is declared elsewhere. -/
theorem field?_tidy (spelled : object.Spelled sort room entries) (name : String) :
    object.toJson.tidy.field? name = (object.bag.get? name).or
      (Bag.get? (("datacenter", .string object.datacenter) :: Json.tidyMembers entries).reverse
        name) := by
  have kept : Json.tidyMembers object.bag = object.bag := by
    have same : (object.bag.map fun entry => (entry.1, entry.2.tidy)) = object.bag.map id :=
      List.map_congr_left fun entry held =>
        Prod.ext rfl (Document.tidy_eq_self (spelled.strange.walked held))
    rw [Json.tidyMembers_eq_map, same, List.map_id]
  have written : object.toJson.tidy = .object (Bag.ofMembers
      (("datacenter", .string object.datacenter) :: Json.tidyMembers entries ++ object.bag)) := by
    rw [spelled.json, Json.tidy, Json.tidyMembers_eq_map, List.map_append, List.map_cons,
      ← Json.tidyMembers_eq_map, ← Json.tidyMembers_eq_map, kept]
    rfl
  -- The last member of a name counts, so the bag goes first.
  have last : Bag.get? object.bag.reverse name = object.bag.get? name := by
    rw [← Bag.get?_ofMembers, Bag.ofMembers_eq_self spelled.strange.ascending]
  rw [written]
  show Bag.get? (Bag.ofMembers _) name = _
  rw [Bag.get?_ofMembers, List.reverse_append, Bag.get?_append, last]

/-- As a value, the object has the last datacenter that is written. -/
theorem field?_datacenter (spelled : object.Spelled sort room entries) :
    object.toJson.tidy.field? "datacenter" =
      (object.bag.get? "datacenter").or (some (.string object.datacenter)) := by
  have once : "datacenter" ∉ (Json.tidyMembers entries).reverse.map Prod.fst := by
    have fields := spelled.names ▸ object.kind.nodup_fields
    rw [Json.tidyMembers_eq_map, List.map_reverse, List.mem_reverse, List.map_map]
    exact (List.nodup_cons.mp fields).1
  rw [spelled.field?_tidy, List.reverse_cons, Bag.get?_append, Bag.get?_eq_none once,
    Option.none_or, Bag.get?_cons, if_pos rfl]

/-- As a value, the object belongs to the datacenter unless the bag says otherwise. -/
theorem owner_iff (spelled : object.Spelled sort room entries) :
    object.toJson.tidy.field? "datacenter" = some (.string object.datacenter) ↔
      ∀ entry ∈ object.bag, entry.1 = "datacenter" → entry.2 = .string object.datacenter := by
  have different : (object.bag.map Prod.fst).Nodup :=
    (List.pairwise_map.mpr spelled.strange.ascending).imp ne_of_lt
  rw [spelled.field?_datacenter]
  constructor
  · intro owned entry held named
    have found : Bag.get? object.bag "datacenter" = some entry.2 :=
      (Bag.get?_eq_some_iff different).mpr (named ▸ held)
    rw [found, Option.some_or] at owned
    exact Option.some.inj owned
  · intro owned
    cases found : Bag.get? object.bag "datacenter" with
    | none => rfl
    | some value =>
      have held := (Bag.get?_eq_some_iff different).mp found
      rw [Option.some_or]
      exact congrArg some (owned _ held rfl)

end Spelled

end Object

/-! ### Where objects come from -/

namespace Endpoint

/-- The kind of the objects that the items of an endpoint become. -/
def kind : Endpoint → Kind
  | .checks => .check
  | .clients => .client
  | .events => .event
  | .aggregates => .aggregate
  | .stashes => .stash
  | .silenced => .silence

/-- The object that a report of an endpoint becomes in a datacenter. -/
def object (datacenter : String) : (endpoint : Endpoint) → endpoint.Item → Object
  | .checks, report => .check (report.tagged datacenter)
  | .clients, report => .client (report.tagged datacenter)
  | .events, report => .event (report.tagged datacenter)
  | .aggregates, report => .aggregate (report.tagged datacenter)
  | .stashes, report => .stash (report.tagged datacenter)
  | .silenced, report => .silence (report.tagged datacenter)

variable {endpoint : Endpoint} {item : Document} {report : endpoint.Item} (datacenter : String)

/-- All objects but subscriptions come from the items of an endpoint. -/
theorem exists_kind (kind : Kind) :
    kind = .subscription ∨ ∃ endpoint : Endpoint, endpoint.kind = kind := by
  cases kind with
  | check => exact Or.inr ⟨.checks, rfl⟩
  | client => exact Or.inr ⟨.clients, rfl⟩
  | event => exact Or.inr ⟨.events, rfl⟩
  | aggregate => exact Or.inr ⟨.aggregates, rfl⟩
  | stash => exact Or.inr ⟨.stashes, rfl⟩
  | silence => exact Or.inr ⟨.silenced, rfl⟩
  | subscription => exact Or.inl rfl

/-- The objects of a datacenter are those of the reports, without what repeats an earlier key. -/
theorem objects_ofFetched (endpoint : Endpoint) (fetched : Fetched) :
    (Collections.ofFetched datacenter fetched).objects endpoint.kind =
      withoutRepeats Object.key ((endpoint.items fetched).map (endpoint.object datacenter)) := by
  have wrapped : ∀ {Report Item : Type} (key : Item → String) (tag : Report → Item)
      (wrap : Item → Object) (reports : List Report), (∀ item, (wrap item).key = key item) →
        (keepFirst key [] (reports.map tag)).map wrap =
          keepFirst Object.key [] (reports.map fun report => wrap (tag report)) := by
    intro Report Item key tag wrap reports keyed
    have composed : (reports.map fun report => wrap (tag report)) = (reports.map tag).map wrap :=
      (List.map_map ..).symm
    rw [composed, keepFirst_map Object.key wrap, funext keyed]
  rw [← keepFirst_eq_withoutRepeats]
  cases endpoint <;> exact wrapped _ _ _ _ fun _ => rfl

/-- The object of an item is spelled by members in the room of the item. -/
theorem exists_spelled {sort : Number → Prop} (wide : ∀ number : Number, number.Whole → sort number)
    (legible : item.Legible sort 126) (decoded : endpoint.decoder .text item = .ok report) :
    ∃ entries, (endpoint.object datacenter report).Spelled sort 125 entries := by
  cases endpoint with
  | checks => exact Object.spelled_check _ (Report.Check.decoded wide legible decoded).2
  | clients => exact Object.spelled_client _ (Report.Client.decoded wide legible decoded).2
  | events => exact Object.spelled_event _ (Report.Event.decoded wide legible decoded).2
  | aggregates => exact Object.spelled_aggregate _ (Report.Aggregate.decoded legible decoded).2
  | stashes => exact Object.spelled_stash _ (Report.Stash.decoded wide legible decoded).2
  | silenced => exact Object.spelled_silence _ (Report.Silence.decoded wide legible decoded).2

end Endpoint

namespace Connection

variable {connection : Connection} {network : Network} {endpoint : Endpoint}

/-- The reply of an endpoint is an array of these items. -/
def Replies (connection : Connection) (network : Network) (endpoint : Endpoint)
    (items : List Document) : Prop :=
  ∃ request status body ending, connection.asking endpoint = .ok request ∧
    network request = .reply status body ∧
    (Document.read (Text.Utf8.decodeLossy body)).content = .array items ending

/-- A list is read item by item from an array, in which there is room for one level less. -/
theorem Reads.exists_items {reports : List endpoint.Item}
    (reads : connection.Reads network endpoint reports) :
    ∃ items, connection.Replies network endpoint items ∧
      List.Forall₂ (fun item report => endpoint.decoder .text item = .ok report) items reports ∧
      ∀ item ∈ items, item.Legible (fun _ => True) 126 := by
  obtain ⟨request, status, body, made, replied, -, -, read⟩ := reads
  obtain ⟨decoded, -⟩ := fromText_eq_ok_iff.mp read
  obtain ⟨items, ending, same, -, each⟩ := list_eq_ok_iff.mp decoded
  have legible : (Document.array items ending).Legible (fun _ => True) (126 + 1) :=
    same ▸ ⟨Document.depth_read_le _, fun _ _ => trivial⟩
  exact ⟨items, ⟨request, status, body, ending, made, replied, same⟩, each,
    Document.legible_array_iff.mp legible⟩

end Connection

/-- Every object that a poll brings is spelled by members, if the count that it may have fits. -/
theorem Backend.spelled_of_poll {backend : Backend} {network : Network} {fetched : Fetched}
    (brought : backend.poll network = .ok fetched) {owner : String} {kind : Kind} {object : Object}
    (member : object ∈ (Collections.ofFetched owner fetched).objects kind)
    (whole : (Document.ofJson object.toJson).Whole) :
    ∃ entries, object.Spelled (fun _ => True) 125 entries := by
  have delivers := Backend.poll_eq_ok_iff.mp brought
  rcases Endpoint.exists_kind kind with rfl | ⟨endpoint, rfl⟩
  · obtain ⟨subscription, -, rfl⟩ := List.mem_map.mp member
    have counted : (Number.integer subscription.clientCount).Whole := by
      refine whole _ (Document.mem_parts_object_iff.mpr (Or.inr
        ⟨(.ok "client_count", .number (.integer subscription.clientCount)), ?_, List.mem_cons_self⟩))
      exact List.mem_cons_of_mem _ (List.mem_cons_of_mem _ List.mem_cons_self)
    exact Object.spelled_subscription (stands_natural (Int.ofNat_lt.mp counted.2) trivial)
  · rw [endpoint.objects_ofFetched, ← keepFirst_eq_withoutRepeats] at member
    obtain ⟨report, listed, rfl⟩ := List.mem_map.mp (mem_of_mem_keepFirst member)
    obtain ⟨items, -, read, legible⟩ :=
      (Connection.delivers_iff.mp delivers endpoint).exists_items
    obtain ⟨item, inside, decoded⟩ := exists_left_of_forall₂ read listed
    exact endpoint.exists_spelled owner (fun _ _ => trivial) (legible item inside) decoded

namespace Dashboard.Reachable

variable {setup : Setup} {dashboard : Dashboard}

/-- The objects of a snapshot have been brought by polls of their datacenters. -/
theorem brought (reached : Reachable setup dashboard) {kind : Kind} {object : Object}
    (member : object ∈ dashboard.snapshot.list kind) :
    ∃ datacenter ∈ setup.registry.datacenters, ∃ cycle fetched,
      datacenter.polled setup.policy cycle = .ok fetched ∧
        object ∈ (Collections.ofFetched datacenter.name fetched).objects kind := by
  obtain ⟨cycles, same⟩ := reached.snapshot_eq_recounted
  rw [same] at member
  obtain ⟨slice, listed, held⟩ := Snapshot.mem_list_iff.mp member
  obtain ⟨datacenter, registered, rfl⟩ := List.mem_map.mp listed
  rcases datacenter.recounted_data setup.policy cycles with
    none | ⟨cycle, -, fetched, polled, data⟩
  · rw [none] at held
    cases kind <;> cases held
  · exact ⟨datacenter, registered, cycle, fetched, polled, data ▸ held⟩

end Dashboard.Reachable

/-! ### The text of an object -/

namespace Object

/-- The text repeats no name, tells the datacenter of the object, and is decoded to the object. -/
structure KeepsOwner (object : Object) : Prop where
  distinct : (Document.read object.toJson.compact).content.Distinct
  owned : ∃ value, Json.parse object.toJson.compact = .ok value ∧
    value.field? "datacenter" = some (.string object.datacenter)
  recovered : (Object.decoder object.kind).fromText object.toJson.compact = .ok object

section

variable {object : Object} {entries : List (String × Json)}
  (spelled : object.Spelled (fun _ => True) 125 entries)
  (whole : (Document.ofJson object.toJson).Whole)

include spelled whole

/-- The text of an object is read as the document of the object, whatever is in the bag. -/
theorem Spelled.read_compact :
    Document.read object.toJson.compact = ⟨Document.ofJson object.toJson, false⟩ := by
  have shallow : (Document.ofJson object.toJson).depth ≤ 126 := spelled.legible.shallow
  exact Document.read_compact ⟨le_trans shallow (Nat.le_succ 126), whole⟩

theorem Spelled.distinct_read_iff :
    (Document.read object.toJson.compact).content.Distinct ↔ object.Unshadowed := by
  rw [spelled.read_compact whole]
  exact spelled.distinct_iff

theorem Spelled.fromText_eq_ok_iff :
    (Object.decoder object.kind).fromText object.toJson.compact = .ok object ↔
      object.Unshadowed := by
  rw [Decoder.fromText_eq_ok_iff, spelled.read_compact whole, and_iff_left rfl]
  exact spelled.recovered_iff

/-- As a value, the text of an object is what the object is written as. -/
theorem Spelled.parse_compact : Json.parse object.toJson.compact = .ok object.toJson.tidy := by
  rw [Json.parse, spelled.read_compact whole]
  dsimp only
  rw [Document.toJson_ofJson]
  rfl

theorem Spelled.parse_owner_iff :
    (∃ value, Json.parse object.toJson.compact = .ok value ∧
        value.field? "datacenter" = some (.string object.datacenter)) ↔
      ∀ entry ∈ object.bag, entry.1 = "datacenter" → entry.2 = .string object.datacenter := by
  rw [spelled.parse_compact whole, ← spelled.owner_iff]
  constructor
  · rintro ⟨_, same, told⟩
    rwa [Except.ok.inj same]
  · exact fun told => ⟨_, rfl, told⟩

/-- No unknown member is called datacenter where none bears a name that only objects declare. -/
theorem Spelled.keepsOwner_iff_unshadowed : object.KeepsOwner ↔ object.Unshadowed := by
  refine ⟨fun keeps => (spelled.distinct_read_iff whole).mp keeps.distinct, fun unshadowed => ?_⟩
  refine ⟨(spelled.distinct_read_iff whole).mpr unshadowed, ?_,
    (spelled.fromText_eq_ok_iff whole).mpr unshadowed⟩
  refine (spelled.parse_owner_iff whole).mpr fun entry held named => ?_
  exact absurd (named ▸ object.kind.datacenter_mem_added) (unshadowed entry held)

end

end Object

/-- An object of a snapshot belongs to the datacenter whose poll brought it. Its text repeats no
name exactly when no unknown member bears a name that objects of its kind declare and reports do
not; exactly then it is decoded to the object, too. As a value it belongs to that datacenter
unless an unknown member names another one. -/
theorem Dashboard.keepsOwner_iff {setup : Setup} {dashboard : Dashboard}
    (reached : Dashboard.Reachable setup dashboard) {kind : Kind} {object : Object}
    (member : object ∈ dashboard.snapshot.list kind)
    (whole : (Document.ofJson object.toJson).Whole) :
    (∃ slice ∈ dashboard.snapshot.slices,
      object ∈ slice.data.objects kind ∧ object.datacenter = slice.status.name) ∧
    (object.KeepsOwner ↔ object.Unshadowed) ∧
    ((Document.read object.toJson.compact).content.Distinct ↔ object.Unshadowed) ∧
    ((Object.decoder object.kind).fromText object.toJson.compact = .ok object ↔
      object.Unshadowed) ∧
    ((∃ value, Json.parse object.toJson.compact = .ok value ∧
        value.field? "datacenter" = some (.string object.datacenter)) ↔
      ∀ entry ∈ object.bag, entry.1 = "datacenter" → entry.2 = .string object.datacenter) := by
  obtain ⟨datacenter, -, cycle, fetched, polled, held⟩ := reached.brought member
  obtain ⟨entries, spelled⟩ := Backend.spelled_of_poll polled held whole
  refine ⟨?_, spelled.keepsOwner_iff_unshadowed whole, spelled.distinct_read_iff whole,
    spelled.fromText_eq_ok_iff whole, spelled.parse_owner_iff whole⟩
  obtain ⟨slice, listed, inside⟩ := Snapshot.mem_list_iff.mp member
  exact ⟨slice, listed, inside, (reached.sound.slices slice listed).tagged kind object inside⟩

namespace Sample

/-- The report of a silence with a member that silences do not have. -/
def markedReport (name : String) : String :=
  "[\x7b\"id\":\"windows:*\",\"" ++ name ++ "\":\"west\"\x7d]"

/-- What a poll finds where there is that silence. -/
def markedFetched (name : String) : Fetched :=
  ⟨[], [], [], [], [],
    [⟨"windows:*", none, none, none, none, none, false, [(name, .string "west")]⟩]⟩

/-- What the silence becomes. -/
def markedSilence (name : String) : Object :=
  .silence ⟨"east", "windows:*", none, none, none, none, none, false, [(name, .string "west")]⟩

theorem markedSilence_mem (name : String)
    (read : (east.polled setup.policy ⟨answering (markedReport name), ⟨1, 0⟩⟩).toOption =
      some (markedFetched name)) :
    markedSilence name ∈ (polled (markedReport name)).snapshot.list .silence := by
  rw [polled, Dashboard.snapshot_run_poll (built fun _ => .vacant "") rfl
    (eq_ok_of_toOption_eq_some read)]
  exact List.mem_cons_self

end Sample

/-- A silence keeps its owner with a member that no silence has. -/
theorem Dashboard.keepsOwner_iff_region :
    Reachable Sample.setup (Sample.polled (Sample.markedReport "region")) ∧
      Sample.markedSilence "region" ∈
        (Sample.polled (Sample.markedReport "region")).snapshot.list .silence ∧
      (Document.ofJson (Sample.markedSilence "region").toJson).Whole ∧
      (Sample.markedSilence "region").KeepsOwner := by
  have reached := Sample.reachable_polled (Sample.markedReport "region")
  have member := Sample.markedSilence_mem "region" (by decide +kernel)
  have whole : (Document.ofJson (Sample.markedSilence "region").toJson).Whole := by
    decide +kernel
  have unshadowed : (Sample.markedSilence "region").Unshadowed := by
    intro entry held
    rw [List.mem_singleton.mp held]
    decide
  exact ⟨reached, member, whole, (keepsOwner_iff reached member whole).2.1.mpr unshadowed⟩

/-- A remote that names another datacenter in a report gets its object told as one of that
datacenter. The text names the member twice and is no text of a silence any more. -/
theorem Dashboard.shadowed_silence_astray :
    Reachable Sample.setup (Sample.polled (Sample.markedReport "datacenter")) ∧
      Sample.markedSilence "datacenter" ∈
        (Sample.polled (Sample.markedReport "datacenter")).snapshot.list .silence ∧
      (Sample.markedSilence "datacenter").datacenter = "east" ∧
      (Document.ofJson (Sample.markedSilence "datacenter").toJson).Whole ∧
      ¬ (Document.read (Sample.markedSilence "datacenter").toJson.compact).content.Distinct ∧
      (∃ value, Json.parse (Sample.markedSilence "datacenter").toJson.compact = .ok value ∧
        value.field? "datacenter" = some (.string "west")) ∧
      ∀ object, (Object.decoder .silence).fromText
        (Sample.markedSilence "datacenter").toJson.compact ≠ .ok object := by
  have member := Sample.markedSilence_mem "datacenter" (by decide +kernel)
  refine ⟨Sample.reachable_polled _, member, rfl, by decide +kernel, by decide +kernel, ?_,
    fun object decoded => ?_⟩
  · have parsed : Json.parse (Sample.markedSilence "datacenter").toJson.compact =
        .ok (Sample.markedSilence "datacenter").toJson.tidy :=
      eq_ok_of_toOption_eq_some (by decide +kernel)
    exact ⟨_, parsed, by decide +kernel⟩
  · have refused : ((Object.decoder .silence).fromText
        (Sample.markedSilence "datacenter").toJson.compact).toOption = none := by
      decide +kernel
    rw [decoded] at refused
    cases refused

end FleetView
