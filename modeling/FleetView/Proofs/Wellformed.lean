/-
This file proves that the snapshots of a run are well formed. The data that a poll
brings are tagged with their datacenter and have no key twice; failures keep such
data or drop them; so every slice is sound at any time. Since the datacenters have
distinct names, an object of the merged lists is then known by its kind, its
datacenter and its key, and looking it up by these three finds it and no other.
-/

import FleetView.Proofs.History
import FleetView.Proofs.Subscriptions

namespace FleetView

namespace Collections

/-- What the data of a datacenter have to satisfy. -/
structure Sound (data : Collections) (datacenter : String) : Prop where
  tagged : ∀ kind, ∀ object ∈ data.objects kind, object.datacenter = datacenter
  distinct : ∀ kind, ((data.objects kind).map (·.key)).Nodup
  ascending : (data.subscriptions.map (·.name)).Pairwise (· < ·)
  named : ∀ subscription ∈ data.subscriptions, subscription.name ≠ ""

/-- The six lists of a datacenter are those that were fetched, tagged, without what repeats an
earlier key. -/
structure Thinned (data : Collections) (datacenter : String) (fetched : Fetched) : Prop where
  checks : data.checks = withoutRepeats Check.name (fetched.checks.map (·.tagged datacenter))
  clients : data.clients = withoutRepeats Client.name (fetched.clients.map (·.tagged datacenter))
  events : data.events =
    withoutRepeats (fun event => Event.keyOf event.client event.check)
      (fetched.events.map (·.tagged datacenter))
  aggregates : data.aggregates =
    withoutRepeats Aggregate.name (fetched.aggregates.map (·.tagged datacenter))
  stashes : data.stashes = withoutRepeats Stash.path (fetched.stashes.map (·.tagged datacenter))
  silences : data.silences =
    withoutRepeats Silence.id (fetched.silences.map (·.tagged datacenter))

/-! ### The data that a poll brings -/

theorem ofFetched_thinned (datacenter : String) (fetched : Fetched) :
    (ofFetched datacenter fetched).Thinned datacenter fetched where
  checks := keepFirst_eq_withoutRepeats _ _
  clients := keepFirst_eq_withoutRepeats _ _
  events := keepFirst_eq_withoutRepeats _ _
  aggregates := keepFirst_eq_withoutRepeats _ _
  stashes := keepFirst_eq_withoutRepeats _ _
  silences := keepFirst_eq_withoutRepeats _ _

/-- What is kept of tagged reports is tagged. -/
theorem datacenter_eq_of_mem_keepFirst {Report Item : Type} {key : Item → String}
    {tag : Report → Item} {wrap : Item → Object} {datacenter : String} {reports : List Report}
    (tagged : ∀ report, (wrap (tag report)).datacenter = datacenter) :
    ∀ object ∈ (keepFirst key [] (reports.map tag)).map wrap, object.datacenter = datacenter := by
  intro object member
  obtain ⟨item, kept, rfl⟩ := List.mem_map.mp member
  obtain ⟨report, -, rfl⟩ := List.mem_map.mp (mem_of_mem_keepFirst kept)
  exact tagged report

/-- What is kept has no key twice. -/
theorem nodup_keys_map_keepFirst {Item : Type} {key : Item → String} {wrap : Item → Object}
    (keyed : ∀ item, (wrap item).key = key item) (items : List Item) :
    (((keepFirst key [] items).map wrap).map (·.key)).Nodup := by
  have same : (fun object : Object => object.key) ∘ wrap = key := funext keyed
  rw [List.map_map, same]
  exact nodup_keys_keepFirst key [] items

theorem ofFetched_sound (datacenter : String) (fetched : Fetched) :
    (ofFetched datacenter fetched).Sound datacenter where
  tagged := by
    intro kind
    cases kind with
    | check => exact datacenter_eq_of_mem_keepFirst fun _ => rfl
    | client => exact datacenter_eq_of_mem_keepFirst fun _ => rfl
    | event => exact datacenter_eq_of_mem_keepFirst fun _ => rfl
    | aggregate => exact datacenter_eq_of_mem_keepFirst fun _ => rfl
    | stash => exact datacenter_eq_of_mem_keepFirst fun _ => rfl
    | silence => exact datacenter_eq_of_mem_keepFirst fun _ => rfl
    | subscription =>
      intro object member
      obtain ⟨subscription, derived, rfl⟩ := List.mem_map.mp member
      exact Subscription.datacenter_eq_of_mem_gather derived
  distinct := by
    intro kind
    cases kind with
    | check => exact nodup_keys_map_keepFirst (fun _ => rfl) _
    | client => exact nodup_keys_map_keepFirst (fun _ => rfl) _
    | event => exact nodup_keys_map_keepFirst (fun _ => rfl) _
    | aggregate => exact nodup_keys_map_keepFirst (fun _ => rfl) _
    | stash => exact nodup_keys_map_keepFirst (fun _ => rfl) _
    | silence => exact nodup_keys_map_keepFirst (fun _ => rfl) _
    | subscription =>
      rw [objects, List.map_map]
      exact Subscription.nodup_names_gather _ _ _
  ascending := Subscription.ascending_gather _ _ _
  named := fun _ derived => Subscription.name_ne_empty_of_mem_gather derived

theorem empty_sound (datacenter : String) : empty.Sound datacenter where
  tagged := by
    intro kind object member
    cases kind <;> cases member
  distinct := by
    intro kind
    cases kind <;> exact List.nodup_nil
  ascending := List.Pairwise.nil
  named := fun _ member => absurd member List.not_mem_nil

/-! ### One list after the other -/

theorem objects_append (left right : Collections) (kind : Kind) :
    (left.append right).objects kind = left.objects kind ++ right.objects kind := by
  cases kind <;> exact List.map_append

theorem kind_of_mem_objects {data : Collections} {kind : Kind} {object : Object}
    (member : object ∈ data.objects kind) : object.kind = kind := by
  cases kind <;> obtain ⟨_, -, rfl⟩ := List.mem_map.mp member <;> rfl

end Collections

namespace Snapshot

/-- What a snapshot has to satisfy. -/
structure Sound (snapshot : Snapshot) : Prop where
  slices : ∀ slice ∈ snapshot.slices, slice.data.Sound slice.status.name
  distinct : (snapshot.slices.map (·.status.name)).Nodup

/-- The merged objects of a kind are those of the slices, one slice after the other. -/
theorem list_eq_flatMap (snapshot : Snapshot) (kind : Kind) :
    snapshot.list kind = snapshot.slices.flatMap fun slice => slice.data.objects kind := by
  have behind : ∀ (slices : List Slice) (lists : Collections),
      (slices.foldl (fun lists slice => lists.append slice.data) lists).objects kind =
        lists.objects kind ++ slices.flatMap fun slice => slice.data.objects kind := by
    intro slices
    induction slices with
    | nil => exact fun lists => (List.append_nil _).symm
    | cons slice rest inductionHypothesis =>
      intro lists
      rw [List.foldl_cons, inductionHypothesis, Collections.objects_append, List.flatMap_cons,
        List.append_assoc]
  rw [list, merged, behind]
  cases kind <;> rfl

theorem kind_of_mem_list {snapshot : Snapshot} {kind : Kind} {object : Object}
    (member : object ∈ snapshot.list kind) : object.kind = kind :=
  Collections.kind_of_mem_objects member

theorem mem_list_iff {snapshot : Snapshot} {kind : Kind} {object : Object} :
    object ∈ snapshot.list kind ↔
      ∃ slice ∈ snapshot.slices, object ∈ slice.data.objects kind := by
  rw [list_eq_flatMap, List.mem_flatMap]

namespace Sound

variable {snapshot : Snapshot}

theorem slice?_eq_some_iff (sound : snapshot.Sound) {datacenter : String} {slice : Slice} :
    snapshot.slice? datacenter = some slice ↔
      slice ∈ snapshot.slices ∧ slice.status.name = datacenter :=
  find?_eq_some_iff_of_nodup sound.distinct

/-- Looking up by kind, datacenter and key finds the object that has them. -/
theorem get?_eq_some_iff (sound : snapshot.Sound) {kind : Kind} {datacenter key : String}
    {object : Object} :
    snapshot.get? kind datacenter key = some object ↔
      object ∈ snapshot.list kind ∧ object.datacenter = datacenter ∧ object.key = key := by
  rw [get?, Option.bind_eq_some_iff, mem_list_iff]
  constructor
  · rintro ⟨slice, there, found⟩
    obtain ⟨listed, named⟩ := sound.slice?_eq_some_iff.mp there
    have sliceSound := sound.slices slice listed
    rw [Collections.get?_eq] at found
    obtain ⟨member, keyed⟩ := (find?_eq_some_iff_of_nodup (sliceSound.distinct kind)).mp found
    exact ⟨⟨slice, listed, member⟩, (sliceSound.tagged kind object member).trans named, keyed⟩
  · rintro ⟨⟨slice, listed, member⟩, tagged, keyed⟩
    have sliceSound := sound.slices slice listed
    refine ⟨slice, sound.slice?_eq_some_iff.mpr ⟨listed, ?_⟩, ?_⟩
    · rw [← sliceSound.tagged kind object member, tagged]
    · rw [Collections.get?_eq]
      exact (find?_eq_some_iff_of_nodup (sliceSound.distinct kind)).mpr ⟨member, keyed⟩

/-- No two merged objects of a kind agree in datacenter and key. -/
theorem nodup_places (sound : snapshot.Sound) (kind : Kind) :
    ((snapshot.list kind).map fun object =>
      (object.kind, object.datacenter, object.key)).Nodup := by
  rw [list_eq_flatMap, List.map_flatMap, List.nodup_flatMap]
  constructor
  · intro slice listed
    refine List.Nodup.of_map (fun place => place.2.2) ?_
    rw [List.map_map]
    exact (sound.slices slice listed).distinct kind
  · have apart := List.pairwise_map.mp sound.distinct
    refine apart.imp_of_mem fun {one other} oneListed otherListed differ place inOne inOther => ?_
    obtain ⟨object, oneMember, rfl⟩ := List.mem_map.mp inOne
    obtain ⟨twin, otherMember, same⟩ := List.mem_map.mp inOther
    refine differ ?_
    rw [← (sound.slices one oneListed).tagged kind object oneMember,
      ← (sound.slices other otherListed).tagged kind twin otherMember]
    exact (congrArg (fun place => place.2.1) same).symm

end Sound

end Snapshot

/-! ### Reachable snapshots -/

theorem Datacenter.recounted_sound (datacenter : Datacenter) (policy : Policy)
    (cycles : List Cycle) :
    (datacenter.recounted policy cycles).data.Sound datacenter.name := by
  rcases datacenter.recounted_data policy cycles with none | ⟨cycle, -, fetched, -, brought⟩
  · rw [none]
    exact Collections.empty_sound _
  · rw [brought]
    exact Collections.ofFetched_sound _ _

theorem Setup.recounted_sound (setup : Setup) (cycles : List Cycle) :
    (setup.recounted cycles).Sound where
  slices := by
    intro slice listed
    obtain ⟨datacenter, -, rfl⟩ := List.mem_map.mp listed
    rw [datacenter.recounted_name]
    exact datacenter.recounted_sound setup.policy cycles
  distinct := by
    rw [setup.recounted_names]
    exact setup.registry.nodup_names

namespace Dashboard.Reachable

variable {setup : Setup} {dashboard : Dashboard}

theorem snapshot_eq_recounted (reached : Reachable setup dashboard) :
    ∃ cycles, dashboard.snapshot = setup.recounted cycles := by
  obtain ⟨cycles, same⟩ := reached.snapshot_eq
  exact ⟨cycles, same.trans (setup.snapshotAfter_eq_recounted cycles)⟩

/-- Every snapshot that a run leads to is sound. -/
theorem sound (reached : Reachable setup dashboard) : dashboard.snapshot.Sound := by
  obtain ⟨cycles, same⟩ := reached.snapshot_eq_recounted
  rw [same]
  exact setup.recounted_sound cycles

/-- Every object of a snapshot belongs to a datacenter of the registry. -/
theorem datacenter_mem_names (reached : Reachable setup dashboard) {kind : Kind}
    {object : Object} (member : object ∈ dashboard.snapshot.list kind) :
    object.datacenter ∈ setup.registry.names := by
  obtain ⟨cycles, same⟩ := reached.snapshot_eq_recounted
  obtain ⟨slice, listed, held⟩ := Snapshot.mem_list_iff.mp member
  rw [(reached.sound.slices slice listed).tagged kind object held, ← setup.recounted_names cycles,
    ← same]
  exact List.mem_map_of_mem listed

/-! ### One more poll -/

theorem pollOnce (reached : Reachable setup dashboard) (networks : Networks) (now : Instant) :
    Reachable setup (dashboard.pollOnce networks now) := by
  obtain ⟨files, fresh, uses, built, rfl⟩ := reached
  refine ⟨files, fresh, uses ++ [.poll networks now], built, ?_⟩
  rw [run, List.foldl_concat]
  rfl

/-- Every configured datacenter has its slice. -/
theorem exists_slice? (reached : Reachable setup dashboard) {datacenter : Datacenter}
    (registered : datacenter ∈ setup.registry.datacenters) :
    ∃ slice, dashboard.snapshot.slice? datacenter.name = some slice := by
  obtain ⟨cycles, same⟩ := reached.snapshot_eq_recounted
  rw [same]
  exact ⟨_, setup.recounted_slice? cycles registered⟩

/-- One more poll leaves the slice of a datacenter that its own poll and the previous snapshot
make. -/
theorem slice?_pollOnce (reached : Reachable setup dashboard) {datacenter : Datacenter}
    (registered : datacenter ∈ setup.registry.datacenters) (networks : Networks)
    (now : Instant) :
    (dashboard.pollOnce networks now).snapshot.slice? datacenter.name =
      some ((datacenter.backend setup.policy).slice setup.policy dashboard.snapshot now
        ((datacenter.backend setup.policy).poll (networks datacenter.name))) := by
  obtain ⟨cycles, same⟩ := reached.snapshot_eq_recounted
  have sliced := setup.slice_recounted cycles ⟨networks, now⟩ registered
  rw [Datacenter.polled] at sliced
  rw [Dashboard.pollOnce, publish_next, reached.backends_eq, reached.setup_eq, same,
    setup.recounted_next cycles ⟨networks, now⟩, setup.recounted_slice? _ registered, sliced]

/-- A poll that gets through leaves what it has brought. -/
theorem slice?_pollOnce_of_delivers (reached : Reachable setup dashboard)
    {datacenter : Datacenter} (registered : datacenter ∈ setup.registry.datacenters)
    {networks : Networks} {fetched : Fetched}
    (delivers : (datacenter.backend setup.policy).connection.Delivers (networks datacenter.name)
      fetched) (now : Instant) :
    (dashboard.pollOnce networks now).snapshot.slice? datacenter.name =
      some ⟨Status.reachable datacenter.name now,
        Collections.ofFetched datacenter.name fetched⟩ := by
  rw [reached.slice?_pollOnce registered, Backend.poll_eq_ok_iff.mpr delivers]
  rfl

/-- A poll that fails leaves the reason, and the data as they were where these are kept. -/
theorem slice?_pollOnce_of_error (reached : Reachable setup dashboard)
    {datacenter : Datacenter} (registered : datacenter ∈ setup.registry.datacenters)
    {networks : Networks} {reason : String}
    (failed : (datacenter.backend setup.policy).poll (networks datacenter.name) = .error reason)
    (now : Instant) :
    (dashboard.pollOnce networks now).snapshot.slice? datacenter.name =
      some ⟨Status.unreachable datacenter.name reason now,
        ((if setup.policy.retainStaleData then dashboard.snapshot.slice? datacenter.name
          else none).map (·.data)).getD Collections.empty⟩ := by
  rw [reached.slice?_pollOnce registered, failed]
  rfl

end Dashboard.Reachable

end FleetView
