/-
This file says how many objects of a kind are counted after one poll. Reports may repeat
a key, and what repeats one is left out, so a count is the number of distinct keys that a
datacenter has reported; for subscriptions, which nobody reports, it is the number of
distinct names that the remaining clients and checks carry. The counts of a snapshot are
the sums over the datacenters whose poll got through. Nothing of this needs the lists
that the snapshot keeps.
-/

import FleetView.Proofs.Summaries

namespace FleetView

namespace Fetched

/-- The keys of the objects of a kind in what a poll has brought, each as often as it is there. -/
def keys (fetched : Fetched) : Kind → List String
  | .check => fetched.checks.map (·.name)
  | .client => fetched.clients.map (·.name)
  | .event => fetched.events.map fun event => Event.keyOf event.client.name event.check.name
  | .aggregate => fetched.aggregates.map (·.name)
  | .stash => fetched.stashes.map (·.path)
  | .silence => fetched.silences.map (·.id)
  | .subscription =>
    ((withoutRepeats Report.Client.name fetched.clients).flatMap (·.subscriptions) ++
      (withoutRepeats Report.Check.name fetched.checks).flatMap (·.subscribers)).filter (· ≠ "")

/-- How many objects of a kind there are, those that repeat a key left out. -/
def count (fetched : Fetched) (kind : Kind) : Nat := (fetched.keys kind).dedup.length

end Fetched

/-! ### One datacenter -/

namespace Collections

/-- The keys that are kept of tagged reports are those of the reports. -/
theorem mem_keys_keepFirst_tagged {Report Item : Type} {key : Item → String} {tag : Report → Item}
    {wrap : Item → Object} (keyed : ∀ item, (wrap item).key = key item) {reports : List Report}
    {name : String} :
    name ∈ ((keepFirst key [] (reports.map tag)).map wrap).map (·.key) ↔
      name ∈ reports.map fun report => key (tag report) := by
  have same : (fun object : Object => object.key) ∘ wrap = key := funext keyed
  rw [List.map_map, same, mem_keys_keepFirst, List.map_map, and_iff_left List.not_mem_nil]
  rfl

/-- The lists that the kept reports carry, where tags change neither keys nor lists. -/
theorem flatMap_keepFirst_tagged {Report Item : Type} (key : Item → String) (tag : Report → Item)
    (names : Item → List String) (reports : List Report) :
    (keepFirst key [] (reports.map tag)).flatMap names =
      (withoutRepeats (fun report => key (tag report)) reports).flatMap fun report =>
        names (tag report) := by
  rw [keepFirst_map, List.flatMap_map, keepFirst_eq_withoutRepeats]

/-- The keys of the objects of a datacenter are those that it has reported. -/
theorem mem_keys_ofFetched {datacenter : String} {fetched : Fetched} {kind : Kind}
    {name : String} :
    name ∈ ((ofFetched datacenter fetched).objects kind).map (·.key) ↔
      name ∈ fetched.keys kind := by
  cases kind with
  | check => exact mem_keys_keepFirst_tagged fun _ => rfl
  | client => exact mem_keys_keepFirst_tagged fun _ => rfl
  | event => exact mem_keys_keepFirst_tagged fun _ => rfl
  | aggregate => exact mem_keys_keepFirst_tagged fun _ => rfl
  | stash => exact mem_keys_keepFirst_tagged fun _ => rfl
  | silence => exact mem_keys_keepFirst_tagged fun _ => rfl
  | subscription =>
    have clients := flatMap_keepFirst_tagged Client.name (Report.Client.tagged datacenter)
      (·.subscriptions) fetched.clients
    have checks := flatMap_keepFirst_tagged Check.name (Report.Check.tagged datacenter)
      (·.subscribers) fetched.checks
    rw [objects, List.map_map, Fetched.keys, List.mem_filter, List.mem_append, decide_eq_true_eq]
    refine Subscription.mem_names_gather.trans (and_congr_left fun _ => ?_)
    exact or_congr (Iff.of_eq (congrArg _ clients)) (Iff.of_eq (congrArg _ checks))

/-- As many objects are kept as there are distinct keys. -/
theorem count_ofFetched (datacenter : String) (fetched : Fetched) (kind : Kind) :
    (ofFetched datacenter fetched).count kind = fetched.count kind := by
  have distinct := (ofFetched_sound datacenter fetched).distinct kind
  have matched : (((ofFetched datacenter fetched).objects kind).map (·.key)).Perm
      (fetched.keys kind).dedup :=
    (List.perm_ext_iff_of_nodup distinct (List.nodup_dedup _)).mpr fun name =>
      mem_keys_ofFetched.trans List.mem_dedup.symm
  rw [count_eq, Fetched.count, ← matched.length_eq, List.length_map]

theorem count_empty (kind : Kind) : empty.count kind = 0 := by
  cases kind <;> rfl

end Collections

/-! ### All datacenters -/

namespace Datacenter

/-- How many objects of a kind the poll of a cycle brings from the datacenter; none where it
fails. -/
def counted (datacenter : Datacenter) (policy : Policy) (cycle : Cycle) (kind : Kind) : Nat :=
  match datacenter.polled policy cycle with
  | .ok fetched => fetched.count kind
  | .error _ => 0

/-- Whether the network of the datacenter delivers all six lists in a cycle. -/
def Served (datacenter : Datacenter) (policy : Policy) (cycle : Cycle) : Prop :=
  ∃ fetched, (datacenter.backend policy).connection.Delivers (cycle.networks datacenter.name)
    fetched

variable (datacenter : Datacenter) (policy : Policy) (cycle : Cycle)

theorem count_recounted (kind : Kind) :
    (datacenter.recounted policy [cycle]).data.count kind =
      datacenter.counted policy cycle kind := by
  unfold counted
  cases brought : datacenter.polled policy cycle with
  | ok fetched =>
    rw [datacenter.recounted_once policy brought]
    exact Collections.count_ofFetched _ _ _
  | error reason =>
    have nothing : (datacenter.recounted policy [cycle]).data = Collections.empty := by
      refine datacenter.recounted_data_of_only_failures policy fun other member => ?_
      rw [List.mem_singleton.mp member]
      exact ⟨reason, brought⟩
    rw [nothing]
    exact Collections.count_empty kind

/-- After one poll a datacenter is reachable exactly when its network has delivered six lists. -/
theorem isReachable_recounted_iff :
    (datacenter.recounted policy [cycle]).status.isReachable = true ↔
      datacenter.Served policy cycle := by
  constructor
  · intro reachable
    obtain ⟨earlier, last, fetched, same, brought⟩ := polled_of_reachable reachable
    have alone : cycle = last := by simpa using congrArg List.getLast? same
    rw [alone]
    exact ⟨fetched, Backend.poll_eq_ok_iff.mp brought⟩
  · rintro ⟨fetched, delivers⟩
    rw [datacenter.recounted_once policy (Backend.poll_eq_ok_iff.mpr delivers)]
    rfl

end Datacenter

namespace Setup

/-- How many objects of a kind the polls of a cycle bring from all datacenters. -/
def counted (setup : Setup) (cycle : Cycle) (kind : Kind) : Nat :=
  (setup.registry.datacenters.map fun datacenter =>
    datacenter.counted setup.policy cycle kind).sum

variable (setup : Setup) (cycle : Cycle)

/-- The counts after one poll. -/
theorem length_list_recounted (kind : Kind) :
    ((setup.recounted [cycle]).list kind).length = setup.counted cycle kind := by
  rw [Snapshot.list_eq_flatMap, List.length_flatMap, recounted, List.map_map, counted]
  refine congrArg List.sum (List.map_congr_left fun datacenter _ => ?_)
  exact (Collections.count_eq _ kind).symm.trans
    (datacenter.count_recounted setup.policy cycle kind)

/-- After one poll as many datacenters are reachable as there are exactly when the network of each
one has delivered six lists. -/
theorem reachable_eq_total_iff :
    (setup.recounted [cycle]).metrics.datacentersReachable =
        (setup.recounted [cycle]).metrics.datacentersTotal ↔
      ∀ datacenter ∈ setup.registry.datacenters, datacenter.Served setup.policy cycle := by
  have each : (setup.recounted [cycle]).metrics.datacentersReachable =
      (setup.recounted [cycle]).metrics.datacentersTotal ↔
        ∀ slice ∈ (setup.recounted [cycle]).slices, slice.status.isReachable = true :=
    List.length_filter_eq_length_iff
  rw [each, recounted, List.forall_mem_map]
  exact forall₂_congr fun datacenter _ => datacenter.isReachable_recounted_iff setup.policy cycle

end Setup

end FleetView
