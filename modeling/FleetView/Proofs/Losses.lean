/-
This file says which events a poll loses. An event is about a check on a client, but events
are told apart by their keys, and pairs of names that differ may have one key. So the events
that are kept are the first ones of their keys, and they are the first ones of their pairs
exactly when no two reported events are confused; exactly then each pair that was reported
can be looked up. Where no client's name holds a slash, or no check's name, nothing is lost.
-/

import FleetView.Proofs.EventKeys
import FleetView.Proofs.Lookup

namespace FleetView

/-! ### First items of coarse keys and of fine ones -/

/-- The items that no earlier item agrees with under a key of any type, in their order. -/
def firsts {Item Key : Type} [DecidableEq Key] (key : Item → Key) (items : List Item) :
    List Item :=
  (items.zipIdx.filter fun entry =>
    decide (key entry.1 ∉ (items.take entry.2).map key)).map Prod.fst

section

variable {Item Key : Type} [DecidableEq Key] {key : Item → Key} {items : List Item}

theorem mem_firsts_iff {item : Item} :
    item ∈ firsts key items ↔
      ∃ place, items[place]? = some item ∧ key item ∉ (items.take place).map key := by
  rw [firsts, List.mem_map]
  constructor
  · rintro ⟨⟨found, place⟩, kept, rfl⟩
    obtain ⟨there, first⟩ := List.mem_filter.mp kept
    exact ⟨place, List.mem_zipIdx_iff_getElem?.mp there, of_decide_eq_true first⟩
  · rintro ⟨place, there, first⟩
    exact ⟨(item, place), List.mem_filter.mpr ⟨List.mem_zipIdx_iff_getElem?.mpr there,
      decide_eq_true first⟩, rfl⟩

/-- Some first item agrees with each item. -/
theorem exists_mem_firsts (key : Item → Key) {item : Item} (member : item ∈ items) :
    ∃ first ∈ firsts key items, key first = key item := by
  have listed : key item ∈ items.map key := List.mem_map_of_mem member
  have there := List.getElem?_idxOf listed
  rw [List.getElem?_map] at there
  obtain ⟨first, found, same⟩ := Option.map_eq_some_iff.mp there
  refine ⟨first, mem_firsts_iff.mpr ⟨_, found, ?_⟩, same⟩
  rw [same, List.map_take, List.mem_take_iff_idxOf_lt listed]
  exact Nat.lt_irrefl _

/-- Where two keys tell the same items apart, the first items are the same. -/
theorem withoutRepeats_eq_firsts {coarse : Item → String}
    (apart : ∀ one ∈ items, ∀ other ∈ items, coarse one = coarse other ↔ key one = key other) :
    withoutRepeats coarse items = firsts key items := by
  rw [withoutRepeats, firsts]
  refine congrArg (List.map Prod.fst) (List.filter_congr fun entry there => ?_)
  have member := List.fst_mem_of_mem_zipIdx there
  refine decide_eq_decide.mpr (not_congr ?_)
  rw [List.mem_map, List.mem_map]
  refine exists_congr fun before => and_congr_right fun earlier => ?_
  exact apart before (List.mem_of_mem_take earlier) entry.1 member

/-- The first items of a coarse key are those of a finer one exactly when no two items of one coarse
key differ under the finer one. -/
theorem withoutRepeats_eq_firsts_iff {coarse : Item → String}
    (coarser : ∀ one other, key one = key other → coarse one = coarse other) :
    withoutRepeats coarse items = firsts key items ↔
      ∀ one ∈ items, ∀ other ∈ items, coarse one = coarse other → key one = key other := by
  constructor
  · intro same one oneMember other otherMember alike
    obtain ⟨first, firstKept, firstSame⟩ := exists_mem_firsts key oneMember
    obtain ⟨second, secondKept, secondSame⟩ := exists_mem_firsts key otherMember
    have distinct := nodup_keys_keepFirst coarse [] items
    rw [keepFirst_eq_withoutRepeats, same] at distinct
    have joined : coarse first = coarse second := by
      rw [coarser _ _ firstSame, alike, coarser _ _ secondSame]
    rw [← firstSame, List.inj_on_of_nodup_map distinct firstKept secondKept joined, secondSame]
  · intro apart
    exact withoutRepeats_eq_firsts fun one oneMember other otherMember =>
      ⟨apart one oneMember other otherMember, coarser one other⟩

end

/-! ### Events that are reported and events that are kept -/

/-- No two reported events are confused with each other. -/
def Fetched.Unconfused (fetched : Fetched) : Prop :=
  ∀ one ∈ fetched.events, ∀ other ∈ fetched.events,
    ¬ Event.Confused one.client.name one.check.name other.client.name other.check.name

namespace Fetched

variable {fetched : Fetched}

/-- It is enough that no client's name holds a slash. -/
theorem unconfused_of_plain_clients
    (plain : ∀ report ∈ fetched.events, '/' ∉ report.client.name.toList) :
    fetched.Unconfused := by
  rintro one oneMember other otherMember (shifted | shifted)
  · exact plain one oneMember shifted.slashes.1
  · exact plain other otherMember shifted.slashes.1

/-- It is enough that no check's name holds a slash. -/
theorem unconfused_of_plain_checks
    (plain : ∀ report ∈ fetched.events, '/' ∉ report.check.name.toList) :
    fetched.Unconfused := by
  rintro one oneMember other otherMember (shifted | shifted)
  · exact plain other otherMember shifted.slashes.2
  · exact plain one oneMember shifted.slashes.2

/-- Reported events are unconfused exactly when their keys tell them apart as their pairs of names
do. -/
theorem unconfused_iff (datacenter : String) :
    fetched.Unconfused ↔
      ∀ one ∈ fetched.events.map (·.tagged datacenter),
        ∀ other ∈ fetched.events.map (·.tagged datacenter),
          Event.keyOf one.client one.check = Event.keyOf other.client other.check →
            (one.client, one.check) = (other.client, other.check) := by
  simp only [List.forall_mem_map, Prod.mk.injEq, Event.eq_of_keyOf_eq_iff]
  rfl

end Fetched

namespace Collections

/-- One of the reports with the key of a report is kept. -/
theorem exists_kept_report (datacenter : String) {fetched : Fetched}
    {report : Report.Event} (member : report ∈ fetched.events) :
    ∃ first ∈ fetched.events,
      first.tagged datacenter ∈ (ofFetched datacenter fetched).events ∧
        Event.keyOf first.client.name first.check.name =
          Event.keyOf report.client.name report.check.name := by
  have listed : Event.keyOf report.client.name report.check.name ∈
      (ofFetched datacenter fetched).events.map fun event =>
        Event.keyOf event.client event.check :=
    mem_keys_keepFirst.mpr
      ⟨List.mem_map.mpr ⟨_, List.mem_map_of_mem member, rfl⟩, List.not_mem_nil⟩
  obtain ⟨event, kept, same⟩ := List.mem_map.mp listed
  obtain ⟨first, there, rfl⟩ := List.mem_map.mp (mem_of_mem_keepFirst kept)
  exact ⟨first, there, kept, same⟩

/-- The events that are kept are the first ones of their pairs of names exactly when no two of the
reply are confused. -/
theorem events_eq_firsts_iff (datacenter : String) (fetched : Fetched) :
    (ofFetched datacenter fetched).events = firsts (fun event => (event.client, event.check))
      (fetched.events.map (·.tagged datacenter)) ↔ fetched.Unconfused := by
  rw [(ofFetched_thinned datacenter fetched).events, Fetched.unconfused_iff datacenter]
  refine withoutRepeats_eq_firsts_iff fun one other same => ?_
  obtain ⟨client, check⟩ := Prod.mk.inj same
  rw [client, check]

end Collections

namespace Snapshot

variable {snapshot : Snapshot} {datacenter : String} {fetched : Fetched} {status : Status}

/-- The event of a key in a slice is found under it. -/
theorem Sound.getByKey_event (sound : snapshot.Sound) {slice : Slice}
    (there : snapshot.slice? datacenter = some slice) {event : Event}
    (member : event ∈ slice.data.events) :
    snapshot.getByKey .event datacenter (Event.keyOf event.client event.check) =
      .ok (.event event) := by
  obtain ⟨listed, owned⟩ := sound.holdsEvent_iff.mp ⟨slice, there, member⟩
  exact sound.getByKey_eq_ok_iff.mpr ⟨listed, owned, rfl⟩

/-- Under the names of a reported event a report with its key is found. -/
theorem Sound.exists_getByKey_report (sound : snapshot.Sound)
    (there : snapshot.slice? datacenter = some ⟨status, .ofFetched datacenter fetched⟩)
    {report : Report.Event} (member : report ∈ fetched.events) :
    ∃ first ∈ fetched.events,
      snapshot.getByKey .event datacenter (report.client.name ++ "/" ++ report.check.name) =
        .ok (.event (first.tagged datacenter)) ∧
      Event.keyOf first.client.name first.check.name =
        Event.keyOf report.client.name report.check.name := by
  obtain ⟨first, listed, kept, same⟩ := Collections.exists_kept_report datacenter member
  refine ⟨first, listed, ?_, same⟩
  have found := sound.getByKey_event there kept
  exact (congrArg (snapshot.getByKey .event datacenter) same).symm.trans found

/-- Under the names of every reported event one of these names is found exactly when no two of the
reply are confused. -/
theorem Sound.namesakes_found_iff (sound : snapshot.Sound)
    (there : snapshot.slice? datacenter = some ⟨status, .ofFetched datacenter fetched⟩) :
    (∀ report ∈ fetched.events, ∃ event,
      snapshot.getByKey .event datacenter (report.client.name ++ "/" ++ report.check.name) =
          .ok (.event event) ∧
        event.client = report.client.name ∧ event.check = report.check.name) ↔
      fetched.Unconfused := by
  constructor
  · intro named one oneMember other otherMember confused
    obtain ⟨event, held, client, check⟩ := named one oneMember
    obtain ⟨another, anotherHeld, anotherClient, anotherCheck⟩ := named other otherMember
    have joined : one.client.name ++ "/" ++ one.check.name =
        other.client.name ++ "/" ++ other.check.name := Event.keyOf_eq_iff.mpr (Or.inr confused)
    rw [joined, anotherHeld] at held
    cases held
    rw [← client, ← check, ← anotherClient, ← anotherCheck] at confused
    exact Event.not_confused_self _ _ confused
  · intro unconfused report member
    obtain ⟨first, listed, held, same⟩ := sound.exists_getByKey_report there member
    obtain ⟨client, check⟩ :=
      Event.eq_of_keyOf_eq_iff.mpr (unconfused first listed report member) same
    exact ⟨_, held, client, check⟩

end Snapshot

/-- What a snapshot has of the events that a poll of a datacenter has brought. -/
structure Snapshot.KeepsReported (snapshot : Snapshot) (datacenter : String)
    (fetched : Fetched) : Prop where
  /-- The first events of their keys are kept. They are the first ones of their pairs of names, in
  the order of the reply, exactly when no two of the reply are confused. -/
  kept : ∃ slice, snapshot.slice? datacenter = some slice ∧
    slice.data.events = withoutRepeats (fun event => Event.keyOf event.client event.check)
      (fetched.events.map (·.tagged datacenter)) ∧
    (slice.data.events = firsts (fun event => (event.client, event.check))
      (fetched.events.map (·.tagged datacenter)) ↔ fetched.Unconfused)
  /-- Under the names of every reported event there is an event of that key. -/
  found : ∀ report ∈ fetched.events, ∃ event,
    snapshot.getByKey .event datacenter (report.client.name ++ "/" ++ report.check.name) =
        .ok (.event event) ∧
      event.client ++ "/" ++ event.check = report.client.name ++ "/" ++ report.check.name
  /-- It has these names for every reported event exactly when no two of the reply are confused. -/
  named : (∀ report ∈ fetched.events, ∃ event,
    snapshot.getByKey .event datacenter (report.client.name ++ "/" ++ report.check.name) =
        .ok (.event event) ∧
      event.client = report.client.name ∧ event.check = report.check.name) ↔ fetched.Unconfused
  /-- No two are confused where the names of clients hold no slash, or those of checks. -/
  plain : (∀ report ∈ fetched.events, '/' ∉ report.client.name.toList) ∨
    (∀ report ∈ fetched.events, '/' ∉ report.check.name.toList) → fetched.Unconfused

namespace Dashboard

variable {setup : Setup} {dashboard : Dashboard}

/-- After a poll that gets through, the events of a datacenter are the first ones of their keys, in
the order of the reply; nothing of the reply is lost exactly when no two of its events are
confused. -/
theorem events_kept_iff (reached : Reachable setup dashboard) {datacenter : Datacenter}
    (registered : datacenter ∈ setup.registry.datacenters) {networks : Networks}
    {fetched : Fetched}
    (delivers : (datacenter.backend setup.policy).connection.Delivers (networks datacenter.name)
      fetched) (now : Instant) :
    (dashboard.pollOnce networks now).snapshot.KeepsReported datacenter.name fetched := by
  have there := reached.slice?_pollOnce_of_delivers registered delivers now
  have sound := (reached.pollOnce networks now).sound
  constructor
  case kept =>
    exact ⟨_, there, (Collections.ofFetched_thinned _ _).events,
      Collections.events_eq_firsts_iff _ _⟩
  case found =>
    intro report member
    obtain ⟨first, -, held, same⟩ := sound.exists_getByKey_report there member
    exact ⟨_, held, same⟩
  case named => exact sound.namesakes_found_iff there
  case plain =>
    exact fun plain => plain.elim Fetched.unconfused_of_plain_clients
      Fetched.unconfused_of_plain_checks

end Dashboard

namespace Sample

/-- The text of the event of a check on a client. -/
def eventText (client check : String) : String :=
  "\x7b\"client\":\x7b\"name\":\"" ++ client ++ "\"\x7d," ++
    "\"check\":\x7b\"name\":\"" ++ check ++ "\"\x7d\x7d"

/-- The report of two events. -/
def twoEvents (client check other another : String) : String :=
  "[" ++ eventText client check ++ "," ++ eventText other another ++ "]"

/-- What a poll finds where there are these two events. -/
def twoFetched (client check other another : String) : Fetched :=
  ⟨[], [], [⟨none, ⟨client, none, [], none, none, []⟩, ⟨check, 0, none, [], []⟩, 0, none, none,
      false, []⟩,
    ⟨none, ⟨other, none, [], none, none, []⟩, ⟨another, 0, none, [], []⟩, 0, none, none,
      false, []⟩], [], [], []⟩

end Sample

namespace Dashboard

/-- The events of two checks on one client are both kept and found. -/
theorem events_kept_iff_web :
    Reachable Sample.setup Sample.fresh ∧ Sample.east ∈ Sample.setup.registry.datacenters ∧
      (Sample.east.backend Sample.setup.policy).connection.Delivers
        (Sample.reporting "events" (Sample.twoEvents "web" "cpu" "web" "disk/var") "east")
        (Sample.twoFetched "web" "cpu" "web" "disk/var") ∧
      ∃ event, (Sample.fresh.pollOnce (Sample.reporting "events"
            (Sample.twoEvents "web" "cpu" "web" "disk/var")) ⟨1, 0⟩).snapshot.getByKey .event
          "east" "web/disk/var" = .ok (.event event) ∧
        event.client = "web" ∧ event.check = "disk/var" := by
  have registered : Sample.east ∈ Sample.setup.registry.datacenters := List.mem_singleton_self _
  have delivers : (Sample.east.backend Sample.setup.policy).connection.Delivers
      (Sample.reporting "events" (Sample.twoEvents "web" "cpu" "web" "disk/var") Sample.east.name)
      (Sample.twoFetched "web" "cpu" "web" "disk/var") :=
    Backend.poll_eq_ok_iff.mp (eq_ok_of_toOption_eq_some (by decide +kernel))
  have keeps := events_kept_iff Sample.reachable_fresh registered delivers ⟨1, 0⟩
  refine ⟨Sample.reachable_fresh, registered, delivers, ?_⟩
  have unconfused := keeps.plain (Or.inl (by decide +kernel))
  exact keeps.named.mpr unconfused _ (List.mem_cons_of_mem _ (List.mem_singleton_self _))

/-- An event is lost to another one whose client and check are named otherwise, and under its own
names that other one is found. -/
theorem confused_event_lost :
    Reachable Sample.setup Sample.fresh ∧
      (Sample.east.backend Sample.setup.policy).connection.Delivers
        (Sample.reporting "events" (Sample.twoEvents "a/b" "c" "a" "b/c") "east")
        (Sample.twoFetched "a/b" "c" "a" "b/c") ∧
      ∃ slice, (Sample.fresh.pollOnce (Sample.reporting "events"
            (Sample.twoEvents "a/b" "c" "a" "b/c")) ⟨1, 0⟩).snapshot.slice? "east" = some slice ∧
        (slice.data.events.map fun event => (event.client, event.check)) = [("a/b", "c")] ∧
        ∀ event, (Sample.fresh.pollOnce (Sample.reporting "events"
              (Sample.twoEvents "a/b" "c" "a" "b/c")) ⟨1, 0⟩).snapshot.getByKey .event "east"
            ("a" ++ "/" ++ "b/c") = .ok (.event event) → event.client = "a/b" := by
  have registered : Sample.east ∈ Sample.setup.registry.datacenters := List.mem_singleton_self _
  have delivers : (Sample.east.backend Sample.setup.policy).connection.Delivers
      (Sample.reporting "events" (Sample.twoEvents "a/b" "c" "a" "b/c") Sample.east.name)
      (Sample.twoFetched "a/b" "c" "a" "b/c") :=
    Backend.poll_eq_ok_iff.mp (eq_ok_of_toOption_eq_some (by decide +kernel))
  have there := Sample.reachable_fresh.slice?_pollOnce_of_delivers registered delivers ⟨1, 0⟩
  have sound := (Sample.reachable_fresh.pollOnce (Sample.reporting "events"
    (Sample.twoEvents "a/b" "c" "a" "b/c")) ⟨1, 0⟩).sound
  refine ⟨Sample.reachable_fresh, delivers, _, there, by decide +kernel, fun event found => ?_⟩
  have kept : Report.Event.tagged "east" ⟨none, ⟨"a/b", none, [], none, none, []⟩,
      ⟨"c", 0, none, [], []⟩, 0, none, none, false, []⟩ ∈
        (Collections.ofFetched "east" (Sample.twoFetched "a/b" "c" "a" "b/c")).events := by
    decide +kernel
  have joined : "a" ++ "/" ++ "b/c" = Event.keyOf "a/b" "c" := by decide +kernel
  rw [joined] at found
  cases (sound.getByKey_event there kept).symm.trans found
  rfl

end Dashboard

end FleetView
