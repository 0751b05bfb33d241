/-
This file is about the keys of events. The key joins the names of a client and of a
check by a slash, and either name may hold slashes of its own; so two pairs of names
have one key exactly when some text between two slashes goes with the client in one
pair and with the check in the other. A command against an event is decided on by the
key, whereas the request that goes out carries the two names. It is therefore decided
on by the event that it is sent for as long as no other event has that key, which is
certain where neither name holds a slash.
-/

import FleetView.Proofs.Hiding

namespace FleetView

namespace Event

/-- The text between two slashes that ends the name of one client begins the name of the other
check. -/
def Shifted (client check other another : String) : Prop :=
  ∃ between, client = other ++ "/" ++ between ∧ another = between ++ "/" ++ check

/-- Two pairs of names that are joined to one key although they differ. -/
def Confused (client check other another : String) : Prop :=
  Shifted client check other another ∨ Shifted other another client check

theorem toList_keyOf (client check : String) :
    (keyOf client check).toList = client.toList ++ '/' :: check.toList := by
  rw [keyOf, String.toList_append, String.toList_append, List.append_assoc]
  rfl

/-- Where the first client's name reaches at least as far as the other one's, the names are the same
or a part of them is shifted. -/
theorem shifted_of_append {client check other another : String} {more : List Char}
    (reaches : client.toList = other.toList ++ more)
    (rest : '/' :: another.toList = more ++ '/' :: check.toList) :
    (client = other ∧ check = another) ∨ Shifted client check other another := by
  cases more with
  | nil =>
    rw [List.append_nil] at reaches
    exact Or.inl ⟨String.toList_inj.mp reaches,
      String.toList_inj.mp (List.cons.inj rest).2.symm⟩
  | cons mark between =>
    obtain ⟨rfl, tail⟩ := List.cons.inj rest
    refine Or.inr ⟨String.ofList between, String.toList_inj.mp ?_, String.toList_inj.mp ?_⟩
    · rw [reaches, ← keyOf, toList_keyOf, String.toList_ofList]
    · rw [tail, ← keyOf, toList_keyOf, String.toList_ofList]
      rfl

/-- Two pairs of names have one key exactly when they are the same or confused. -/
theorem keyOf_eq_iff {client check other another : String} :
    keyOf client check = keyOf other another ↔
      (client = other ∧ check = another) ∨ Confused client check other another := by
  constructor
  · intro same
    have joined := congrArg String.toList same
    rw [toList_keyOf, toList_keyOf, List.append_eq_append_iff] at joined
    rcases joined with ⟨more, reaches, rest⟩ | ⟨more, reaches, rest⟩
    · rcases shifted_of_append reaches rest with ⟨rfl, rfl⟩ | shifted
      · exact Or.inl ⟨rfl, rfl⟩
      · exact Or.inr (Or.inr shifted)
    · exact (shifted_of_append reaches rest).imp_right Or.inl
  · rintro (⟨rfl, rfl⟩ | ⟨between, rfl, rfl⟩ | ⟨between, rfl, rfl⟩)
    · rfl
    · simp only [keyOf, String.append_assoc]
    · simp only [keyOf, String.append_assoc]

/-- No pair of names is confused with itself: what is shifted makes a name longer. -/
theorem not_confused_self (client check : String) : ¬ Confused client check client check := by
  have longer : ¬ Shifted client check client check := by
    rintro ⟨between, longer, -⟩
    have lengths := congrArg String.length longer
    rw [String.length_append, String.length_append] at lengths
    have mark : "/".length = 1 := rfl
    omega
  exact fun confused => confused.elim longer longer

/-- Where something is shifted, the longer names hold slashes. -/
theorem Shifted.slashes {client check other another : String}
    (shifted : Shifted client check other another) :
    '/' ∈ client.toList ∧ '/' ∈ another.toList := by
  obtain ⟨between, rfl, rfl⟩ := shifted
  rw [← keyOf, ← keyOf, toList_keyOf, toList_keyOf]
  exact ⟨List.mem_append_right _ List.mem_cons_self, List.mem_append_right _ List.mem_cons_self⟩

/-- Names without slashes are confused with no others. -/
theorem not_confused_of_no_slash {client check other another : String}
    (plainClient : '/' ∉ client.toList) (plainCheck : '/' ∉ check.toList) :
    ¬ Confused client check other another := by
  rintro (shifted | shifted)
  · exact plainClient shifted.slashes.1
  · exact plainCheck shifted.slashes.2

/-- A key tells two pairs of names apart exactly when they are not confused. -/
theorem eq_of_keyOf_eq_iff {client check other another : String} :
    (keyOf client check = keyOf other another → client = other ∧ check = another) ↔
      ¬ Confused client check other another := by
  rw [keyOf_eq_iff]
  constructor
  · rintro apart confused
    obtain ⟨rfl, rfl⟩ := apart (Or.inr confused)
    exact not_confused_self _ _ confused
  · exact fun clear alike => alike.resolve_right clear

end Event

/-- The names of the client and the check that an action against an event is sent with. -/
def Action.eventNames? : Action → Option (String × String)
  | .deleteCheckResult client check | .resolveEvent client check => some (client, check)
  | _ => none

theorem Action.target_of_eventNames {action : Action} {client check : String}
    (names : action.eventNames? = some (client, check)) :
    action.targetKind = .event ∧ action.targetKey = Event.keyOf client check ∧
      action.ActsOnKnown := by
  cases action with
  | deleteCheckResult =>
    cases names
    exact ⟨rfl, rfl, trivial⟩
  | resolveEvent =>
    cases names
    exact ⟨rfl, rfl, trivial⟩
  | _ => cases names

namespace Snapshot

variable {snapshot : Snapshot}

/-- Whether an event is in the slice of a datacenter. -/
def HoldsEvent (snapshot : Snapshot) (datacenter : String) (event : Event) : Prop :=
  ∃ slice, snapshot.slice? datacenter = some slice ∧ event ∈ slice.data.events

theorem Sound.holdsEvent_iff (sound : snapshot.Sound) {datacenter : String} {event : Event} :
    snapshot.HoldsEvent datacenter event ↔
      .event event ∈ snapshot.list .event ∧ event.datacenter = datacenter := by
  have wrapped : ∀ slice : Slice, Object.event event ∈ slice.data.objects .event ↔
      event ∈ slice.data.events := fun slice =>
    List.mem_map_of_injective fun _ _ same => Object.event.inj same
  rw [mem_list_iff]
  constructor
  · rintro ⟨slice, found, member⟩
    obtain ⟨listed, named⟩ := sound.slice?_eq_some_iff.mp found
    have tagged := (sound.slices slice listed).tagged .event _ ((wrapped slice).mpr member)
    exact ⟨⟨slice, listed, (wrapped slice).mpr member⟩, tagged.trans named⟩
  · rintro ⟨⟨slice, listed, member⟩, owned⟩
    have tagged := (sound.slices slice listed).tagged .event _ member
    exact ⟨slice, sound.slice?_eq_some_iff.mpr ⟨listed, tagged.symm.trans owned⟩,
      (wrapped slice).mp member⟩

/-- A slice holds no two events of one key. -/
theorem Sound.event_eq_of_keyOf_eq (sound : snapshot.Sound) {datacenter : String}
    {one other : Event} (oneHeld : snapshot.HoldsEvent datacenter one)
    (otherHeld : snapshot.HoldsEvent datacenter other)
    (same : Event.keyOf one.client one.check = Event.keyOf other.client other.check) :
    one = other := by
  obtain ⟨oneMember, oneOwned⟩ := sound.holdsEvent_iff.mp oneHeld
  obtain ⟨otherMember, otherOwned⟩ := sound.holdsEvent_iff.mp otherHeld
  have oneFound := sound.get?_eq_some_iff.mpr ⟨oneMember, oneOwned, same⟩
  have otherFound := sound.get?_eq_some_iff.mpr ⟨otherMember, otherOwned, rfl⟩
  exact Object.event.inj (Option.some.inj (oneFound.symm.trans otherFound))

/-- Whether a caller sees the event of a check on a client in a datacenter. -/
def ShowsEvent (snapshot : Snapshot) (identity : Identity) (datacenter client check : String) :
    Prop :=
  ∃ event, snapshot.HoldsEvent datacenter event ∧ event.client = client ∧ event.check = check ∧
    identity.maySee (.object (.event event)) = true

end Snapshot

namespace Dashboard

variable {setup : Setup} {dashboard : Dashboard} {identity : Identity} {command : Command}
  {client check : String}

/-- What a caller with a subscription scope has relayed against an event has been decided on by an
event in sight that has its key. -/
theorem Admits.event (admits : dashboard.Admits identity command)
    (sound : dashboard.snapshot.Sound) (limited : identity.subscriptions.isSome = true)
    (names : command.action.eventNames? = some (client, check)) :
    ∃ event, dashboard.snapshot.HoldsEvent command.datacenter event ∧
      Event.keyOf event.client event.check = Event.keyOf client check ∧
      identity.maySee (.object (.event event)) = true := by
  obtain ⟨kind, key, acts⟩ := Action.target_of_eventNames names
  obtain ⟨object, there⟩ := admits.entitled.known limited acts
  have visible := admits.entitled.target object there
  rw [Identity.mayActOn_of_acting admits.entitled.acting] at visible
  obtain ⟨member, owned, keyed⟩ := there
  rw [kind] at member
  cases object with
  | event event =>
    exact ⟨event, sound.holdsEvent_iff.mpr ⟨member, owned⟩, keyed.trans key, visible⟩
  | _ => cases Snapshot.kind_of_mem_list member

/-- What a caller with a subscription scope has relayed against the event of a check on a client has
been decided on by an event in sight that has its key. It is the event of that check on that
client exactly when the datacenter has no event whose names are confused with these, as is
certain where the names hold no slash. -/
theorem execute_event_iff (reached : Reachable setup dashboard)
    (limited : identity.subscriptions.isSome = true)
    (names : command.action.eventNames? = some (client, check)) {network : Network}
    (relays : dashboard.Relays identity command network) :
    (∃ event, dashboard.snapshot.HoldsEvent command.datacenter event ∧
      Event.keyOf event.client event.check = Event.keyOf client check ∧
      identity.maySee (.object (.event event)) = true) ∧
    (dashboard.snapshot.ShowsEvent identity command.datacenter client check ↔
      ∀ event, dashboard.snapshot.HoldsEvent command.datacenter event →
        ¬ Event.Confused client check event.client event.check) ∧
    ('/' ∉ client.toList → '/' ∉ check.toList →
      dashboard.snapshot.ShowsEvent identity command.datacenter client check) := by
  have admits := (reached.relays_iff identity command network).mp relays
  obtain ⟨event, held, keyed, visible⟩ := admits.event reached.sound limited names
  have shown : dashboard.snapshot.ShowsEvent identity command.datacenter client check ↔
      ∀ event, dashboard.snapshot.HoldsEvent command.datacenter event →
        ¬ Event.Confused client check event.client event.check := by
    constructor
    · rintro ⟨meant, meantHeld, rfl, rfl, -⟩ other otherHeld confused
      -- Another event of that key would be the one that is meant.
      have same := reached.sound.event_eq_of_keyOf_eq meantHeld otherHeld
        (Event.keyOf_eq_iff.mpr (Or.inr confused))
      rw [← same] at confused
      exact Event.not_confused_self _ _ confused
    · intro unconfused
      rcases Event.keyOf_eq_iff.mp keyed.symm with ⟨rfl, rfl⟩ | confused
      · exact ⟨event, held, rfl, rfl, visible⟩
      · exact absurd confused (unconfused event held)
  exact ⟨⟨event, held, keyed, visible⟩, shown, fun plainClient plainCheck =>
    shown.mpr fun _ _ => Event.not_confused_of_no_slash plainClient plainCheck⟩

end Dashboard

namespace Sample

/-- Networks that answer with a text for one collection and with nothing for the others. -/
def reporting (collection text : String) : Networks := fun _ request =>
  .reply 200 (Text.Utf8.encode (if request.url.path = .segments [collection] then text else "[]"))

/-- The report of the event of a check on a client that looks after linux. -/
def eventReport (client check : String) : String :=
  "[\x7b\"client\":\x7b\"name\":\"" ++ client ++ "\",\"subscriptions\":[\"linux\"]\x7d," ++
    "\"check\":\x7b\"name\":\"" ++ check ++ "\"\x7d\x7d]"

/-- What a poll finds where there is that event. -/
def eventFetched (client check : String) : Fetched :=
  ⟨[], [], [⟨none, ⟨client, none, ["linux"], none, none, []⟩, ⟨check, 0, none, [], []⟩, 0, none,
    none, false, []⟩], [], [], []⟩

/-- The dashboard after one poll that finds that event. -/
def eventful (client check : String) : Dashboard :=
  fresh.run [.poll (reporting "events" (eventReport client check)) ⟨1, 0⟩]

theorem reachable_eventful (client check : String) :
    Dashboard.Reachable setup (eventful client check) :=
  ⟨fun _ => .vacant "", fresh, _, built _, rfl⟩

theorem snapshot_eventful (client check : String)
    (read : (east.polled setup.policy
      ⟨reporting "events" (eventReport client check), ⟨1, 0⟩⟩).toOption =
        some (eventFetched client check)) :
    (eventful client check).snapshot =
      ⟨1, [⟨Status.reachable "east" ⟨1, 0⟩,
        Collections.ofFetched "east" (eventFetched client check)⟩]⟩ :=
  Dashboard.snapshot_run_poll (built fun _ => .vacant "") rfl (eq_ok_of_toOption_eq_some read)

end Sample

namespace Dashboard

/-- Where the names hold no slash, the event that is resolved is in sight. -/
theorem execute_event_iff_resolving :
    Reachable Sample.setup (Sample.eventful "web" "cpu") ∧
      (Sample.eventful "web" "cpu").Relays (Sample.operator "linux")
        ⟨"east", .resolveEvent "web" "cpu"⟩ (fun _ => .reply 200 []) ∧
      (Sample.eventful "web" "cpu").snapshot.ShowsEvent (Sample.operator "linux") "east" "web"
        "cpu" := by
  have reached := Sample.reachable_eventful "web" "cpu"
  have relays := reached.relays_of_mayExecute (Sample.operator "linux")
    ⟨"east", .resolveEvent "web" "cpu"⟩ (fun _ => .reply 200 []) (by decide +kernel)
    (by rw [Sample.snapshot_eventful _ _ (by decide +kernel)]; decide +kernel) (by decide +kernel)
  exact ⟨reached, relays,
    (execute_event_iff reached rfl rfl relays).2.2 (by decide +kernel) (by decide +kernel)⟩

/-- A caller has an event resolved that is not there, on the strength of one whose client and check
are named otherwise. -/
theorem resolving_confused_event :
    Reachable Sample.setup (Sample.eventful "a/b" "c") ∧
      (Sample.eventful "a/b" "c").Relays (Sample.operator "linux")
        ⟨"east", .resolveEvent "a" "b/c"⟩ (fun _ => .reply 200 []) ∧
      ¬ (Sample.eventful "a/b" "c").snapshot.ShowsEvent (Sample.operator "linux") "east" "a"
        "b/c" := by
  have reached := Sample.reachable_eventful "a/b" "c"
  have snapshot := Sample.snapshot_eventful "a/b" "c" (by decide +kernel)
  refine ⟨reached, reached.relays_of_mayExecute _ _ _ (by decide +kernel)
    (by rw [snapshot]; decide +kernel) (by decide +kernel), ?_⟩
  rintro ⟨event, held, meant, -⟩
  have named : ∀ found, Object.event found ∈ (Sample.eventful "a/b" "c").snapshot.list .event →
      found.client = "a/b" := by
    rw [snapshot]
    intro found member
    have only := List.mem_singleton.mp member
    rw [Object.event.inj only]
    rfl
  rw [named event (reached.sound.holdsEvent_iff.mp held).1] at meant
  revert meant
  decide

end Dashboard

end FleetView
