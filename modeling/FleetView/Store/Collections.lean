/-
The objects of one datacenter, or of all of them together: one list per kind, in
the order in which they were reported. Where a report repeats a key, the first
object of that key stays.
-/

import FleetView.Object.Codec
import FleetView.Object.Tagging

namespace FleetView

/-- The six lists that one poll of a datacenter brings. -/
structure Fetched where
  checks : List Report.Check
  clients : List Report.Client
  events : List Report.Event
  aggregates : List Report.Aggregate
  stashes : List Report.Stash
  silences : List Report.Silence
  deriving DecidableEq

/-- One list of objects for each kind. -/
structure Collections where
  checks : List Check
  clients : List Client
  events : List Event
  aggregates : List Aggregate
  stashes : List Stash
  silences : List Silence
  subscriptions : List Subscription
  deriving DecidableEq

/-- Keeps the first item of each key; `seen` are the keys met so far. -/
def keepFirst {α : Type} (key : α → String) (seen : List String) : List α → List α
  | [] => []
  | item :: rest =>
    if key item ∈ seen then keepFirst key seen rest
    else item :: keepFirst key (key item :: seen) rest

/-- The keys of the items that `keepFirst` drops, in order. -/
def droppedKeys {α : Type} (key : α → String) (seen : List String) : List α → List String
  | [] => []
  | item :: rest =>
    if key item ∈ seen then key item :: droppedKeys key seen rest
    else droppedKeys key (key item :: seen) rest

namespace Collections

/-- No objects. -/
def empty : Collections := ⟨[], [], [], [], [], [], []⟩

/-- The objects of a datacenter after a poll. Subscriptions are derived from the
clients and checks that are kept. -/
def ofFetched (datacenter : String) (fetched : Fetched) : Collections :=
  let checks := keepFirst Check.name [] (fetched.checks.map (·.tagged datacenter))
  let clients := keepFirst Client.name [] (fetched.clients.map (·.tagged datacenter))
  { checks
    clients
    events := keepFirst (fun event => Event.keyOf event.client event.check) []
      (fetched.events.map (·.tagged datacenter))
    aggregates := keepFirst Aggregate.name [] (fetched.aggregates.map (·.tagged datacenter))
    stashes := keepFirst Stash.path [] (fetched.stashes.map (·.tagged datacenter))
    silences := keepFirst Silence.id [] (fetched.silences.map (·.tagged datacenter))
    subscriptions := Subscription.gather datacenter clients checks }

/-- The kind and key of every report that is dropped because its key repeats. -/
def repeatedKeys (fetched : Fetched) : List (Kind × String) :=
  (droppedKeys Report.Check.name [] fetched.checks).map (Kind.check, ·) ++
  (droppedKeys Report.Client.name [] fetched.clients).map (Kind.client, ·) ++
  (droppedKeys (fun event => Event.keyOf event.client.name event.check.name) []
    fetched.events).map (Kind.event, ·) ++
  (droppedKeys Report.Aggregate.name [] fetched.aggregates).map (Kind.aggregate, ·) ++
  (droppedKeys Report.Stash.path [] fetched.stashes).map (Kind.stash, ·) ++
  (droppedKeys Report.Silence.id [] fetched.silences).map (Kind.silence, ·)

/-- The lists of one side followed by those of the other. -/
def append (left right : Collections) : Collections :=
  { checks := left.checks ++ right.checks
    clients := left.clients ++ right.clients
    events := left.events ++ right.events
    aggregates := left.aggregates ++ right.aggregates
    stashes := left.stashes ++ right.stashes
    silences := left.silences ++ right.silences
    subscriptions := left.subscriptions ++ right.subscriptions }

/-- The objects of a kind, in order. -/
def objects (data : Collections) : Kind → List Object
  | .check => data.checks.map .check
  | .client => data.clients.map .client
  | .event => data.events.map .event
  | .aggregate => data.aggregates.map .aggregate
  | .stash => data.stashes.map .stash
  | .silence => data.silences.map .silence
  | .subscription => data.subscriptions.map .subscription

/-- How many objects of a kind there are. -/
def count (data : Collections) : Kind → Nat
  | .check => data.checks.length
  | .client => data.clients.length
  | .event => data.events.length
  | .aggregate => data.aggregates.length
  | .stash => data.stashes.length
  | .silence => data.silences.length
  | .subscription => data.subscriptions.length

/-- Whether there is no object of any kind. -/
def isEmpty (data : Collections) : Bool :=
  data.checks.isEmpty && data.clients.isEmpty && data.events.isEmpty &&
    data.aggregates.isEmpty && data.stashes.isEmpty && data.silences.isEmpty &&
    data.subscriptions.isEmpty

/-- The first item with a key, as an object. -/
def pick {α : Type} (object : α → Object) (keyOf : α → String) (items : List α) (key : String) :
    Option Object :=
  (items.find? (keyOf · = key)).map object

/-- The object of a kind with a key. -/
def get? (data : Collections) (kind : Kind) (key : String) : Option Object :=
  match kind with
  | .check => pick .check Check.name data.checks key
  | .client => pick .client Client.name data.clients key
  | .event => pick .event (fun event => Event.keyOf event.client event.check) data.events key
  | .aggregate => pick .aggregate Aggregate.name data.aggregates key
  | .stash => pick .stash Stash.path data.stashes key
  | .silence => pick .silence Silence.id data.silences key
  | .subscription => pick .subscription Subscription.name data.subscriptions key

/-! ### Counts and lookups agree with the objects -/

theorem count_eq (data : Collections) (kind : Kind) :
    data.count kind = (data.objects kind).length := by
  cases kind <;> exact (List.length_map _).symm

theorem isEmpty_iff (data : Collections) :
    data.isEmpty = true ↔ ∀ kind, data.objects kind = [] := by
  simp only [isEmpty, Bool.and_eq_true, List.isEmpty_iff]
  constructor
  · intro nothing kind
    cases kind <;> simp [objects, nothing]
  · intro nothing
    have none : ∀ kind, data.count kind = 0 := by
      intro kind
      rw [count_eq, nothing]
      rfl
    simp only [← List.length_eq_zero_iff]
    exact ⟨⟨⟨⟨⟨⟨none .check, none .client⟩, none .event⟩, none .aggregate⟩, none .stash⟩,
      none .silence⟩, none .subscription⟩

/-- Picking an item finds the same object among the objects that the items are. -/
theorem pick_eq {α : Type} {object : α → Object} {keyOf : α → String}
    (keyed : ∀ item, (object item).key = keyOf item) (items : List α) (key : String) :
    pick object keyOf items key = (items.map object).find? (·.key = key) := by
  rw [List.find?_map, pick]
  congr 2
  funext item
  exact congrArg (fun found => decide (found = key)) (keyed item).symm

theorem get?_eq (data : Collections) (kind : Kind) (key : String) :
    data.get? kind key = (data.objects kind).find? (·.key = key) := by
  cases kind <;> exact pick_eq (fun _ => rfl) _ _

end Collections

end FleetView
