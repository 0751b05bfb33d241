/-
This file proves that the ways of finding an object agree. An object can be looked up
in the slice of its datacenter, or be met in the merged list of its kind, or be found
by its name in all datacenters at once. The slices and the merged lists are searched
in different ways, but no slice has a key twice and no two slices share a datacenter,
so whatever is found is the one object of its place.
-/

import FleetView.Proofs.Wellformed
import FleetView.Proofs.Traversal

namespace FleetView

/-- Where no two items share a key, the items with a key are the one that is found under it. -/
theorem filter_eq_toList_find? {Item Key : Type} [DecidableEq Key] {key : Item → Key}
    {items : List Item} (distinct : (items.map key).Nodup) (name : Key) :
    (items.filter fun item => decide (key item = name)) =
      (items.find? fun item => decide (key item = name)).toList := by
  induction items with
  | nil => rfl
  | cons item rest inductionHypothesis =>
    rw [List.map_cons, List.nodup_cons] at distinct
    by_cases same : key item = name
    · rw [List.filter_cons_of_pos (by simpa using same),
        List.find?_cons_of_pos (by simpa using same), Option.toList_some]
      refine congrArg (item :: ·) (List.filter_eq_nil_iff.mpr fun other member again => ?_)
      refine distinct.1 (List.mem_map.mpr ⟨other, member, ?_⟩)
      rw [same, of_decide_eq_true again]
    · rw [List.filter_cons_of_neg (by simpa using same),
        List.find?_cons_of_neg (by simpa using same), inductionHypothesis distinct.2]

namespace Snapshot

variable {snapshot : Snapshot}

theorem getByKey_eq_ok_iff_get? {kind : Kind} {datacenter key : String} {object : Object} :
    snapshot.getByKey kind datacenter key = .ok object ↔
      snapshot.get? kind datacenter key = some object := by
  unfold getByKey
  cases snapshot.get? kind datacenter key with
  | none => exact ⟨nofun, nofun⟩
  | some other => exact ⟨fun same => congrArg some (Except.ok.inj same),
      fun same => congrArg Except.ok (Option.some.inj same)⟩

theorem toOption_getByKey (kind : Kind) (datacenter key : String) :
    (snapshot.getByKey kind datacenter key).toOption = snapshot.get? kind datacenter key := by
  unfold getByKey
  cases snapshot.get? kind datacenter key <;> rfl

namespace Sound

/-- A lookup by kind, datacenter and key comes to the listed object that has them. -/
theorem getByKey_eq_ok_iff (sound : snapshot.Sound) {kind : Kind} {datacenter key : String}
    {object : Object} :
    snapshot.getByKey kind datacenter key = .ok object ↔
      object ∈ snapshot.list kind ∧ object.datacenter = datacenter ∧ object.key = key :=
  getByKey_eq_ok_iff_get?.trans sound.get?_eq_some_iff

theorem getByKey_eq_notFound (sound : snapshot.Sound) {kind : Kind} {datacenter key : String}
    (absent : ∀ object ∈ snapshot.list kind, object.datacenter = datacenter → object.key ≠ key) :
    snapshot.getByKey kind datacenter key = .error (.notFound kind.name key) := by
  cases found : snapshot.get? kind datacenter key with
  | none =>
    rw [getByKey, found]
  | some object =>
    obtain ⟨listed, owned, keyed⟩ := sound.get?_eq_some_iff.mp found
    exact absurd keyed (absent object listed owned)

/-- No object of a kind is listed twice for one datacenter and key. -/
theorem filter_place_eq_singleton (sound : snapshot.Sound) {kind : Kind} {object : Object}
    (listed : object ∈ snapshot.list kind) :
    ((snapshot.list kind).filter fun other =>
      decide ((other.datacenter, other.key) = (object.datacenter, object.key))) = [object] := by
  have distinct : ((snapshot.list kind).map fun other => (other.datacenter, other.key)).Nodup := by
    refine List.Nodup.of_map (fun place => (kind, place)) ?_
    rw [List.map_map]
    refine (List.map_congr_left fun other member => ?_) ▸ sound.nodup_places kind
    rw [kind_of_mem_list member]
    rfl
  rw [filter_eq_toList_find? distinct]
  cases found : (snapshot.list kind).find? fun other =>
      decide ((other.datacenter, other.key) = (object.datacenter, object.key)) with
  | none => exact absurd (decide_eq_true rfl) (List.find?_eq_none.mp found object listed)
  | some other =>
    have same : (other.datacenter, other.key) = (object.datacenter, object.key) := by
      simpa using List.find?_some found
    rw [List.inj_on_of_nodup_map distinct (List.mem_of_find?_eq_some found) listed same]
    rfl

/-! ### Finding by name -/

/-- The listed objects of a name are those that the slices hold under it, slice by slice. -/
theorem filter_key_eq_filterMap (sound : snapshot.Sound) (kind : Kind) (name : String) :
    ((snapshot.list kind).filter fun object => decide (object.key = name)) =
      (snapshot.slices.map (·.status.name)).filterMap fun datacenter =>
        snapshot.get? kind datacenter name := by
  rw [list_eq_flatMap, List.filter_flatMap, List.filterMap_map,
    List.filterMap_eq_flatMap_toList]
  refine List.flatMap_congr fun slice listed => ?_
  have there : snapshot.slice? slice.status.name = some slice :=
    sound.slice?_eq_some_iff.mpr ⟨listed, rfl⟩
  rw [filter_eq_toList_find? ((sound.slices slice listed).distinct kind), Function.comp_apply,
    get?, there, Option.bind_some, Collections.get?_eq]

/-- The objects of a name come in the order of the datacenters, at most one from each. -/
theorem datacenters_sublist (sound : snapshot.Sound) (kind : Kind) (name : String) :
    (((snapshot.list kind).filter fun object => decide (object.key = name)).map
      (·.datacenter)).Sublist (snapshot.slices.map (·.status.name)) := by
  have owners : ∀ datacenter, (snapshot.get? kind datacenter name).map (·.datacenter) =
      Option.guard (fun datacenter => (snapshot.get? kind datacenter name).isSome) datacenter := by
    intro datacenter
    cases found : snapshot.get? kind datacenter name with
    | none => simp [Option.guard, found]
    | some object => simp [Option.guard, found, (sound.get?_eq_some_iff.mp found).2.1]
  rw [sound.filter_key_eq_filterMap, List.map_filterMap, funext owners, List.filterMap_eq_filter]
  exact List.filter_sublist

theorem hasDatacenter_of_mem_list (sound : snapshot.Sound) {kind : Kind} {object : Object}
    (listed : object ∈ snapshot.list kind) :
    snapshot.hasDatacenter object.datacenter = true := by
  obtain ⟨slice, member, held⟩ := mem_list_iff.mp listed
  have there : snapshot.slice? object.datacenter = some slice :=
    sound.slice?_eq_some_iff.mpr ⟨member, ((sound.slices slice member).tagged kind _ held).symm⟩
  rw [hasDatacenter, there]
  rfl

end Sound

end Snapshot

/-! ### Reachable snapshots -/

namespace Dashboard

variable {setup : Setup} {dashboard : Dashboard}

namespace Reachable

/-- The slices are those of the configured datacenters, in their order. -/
theorem slice_names (reached : Reachable setup dashboard) :
    dashboard.snapshot.slices.map (·.status.name) = setup.registry.names := by
  obtain ⟨cycles, same⟩ := reached.snapshot_eq_recounted
  rw [same, setup.recounted_names]

/-- Every listed object is tagged with a datacenter that is there. -/
theorem confirm_eq_ok (reached : Reachable setup dashboard) {kind : Kind} {object : Object}
    (listed : object ∈ dashboard.snapshot.list kind) (name : String) :
    dashboard.snapshot.confirm kind name object = .ok object := by
  have owned := setup.registry.name_ne_empty (reached.datacenter_mem_names listed)
  have there := reached.sound.hasDatacenter_of_mem_list listed
  refine if_neg fun strange => ?_
  rw [there] at strange
  exact strange.elim owned Bool.noConfusion

/-- Finding by name never fails, and comes to the listed objects of the name. -/
theorem findByName_eq (reached : Reachable setup dashboard) (kind : Kind) (name : String) :
    dashboard.snapshot.findByName kind name =
      .ok ((dashboard.snapshot.list kind).filter fun object => decide (object.key = name)) :=
  mapM_eq_ok_self fun _ found => reached.confirm_eq_ok (List.mem_of_mem_filter found) name

end Reachable

/-- A lookup by kind, datacenter and key finds the one object of the merged list that has them, and
where there is none it says so. Finding by name never fails, finds at most one object in each
datacenter, and finds what the lookups in the configured datacenters find, in their order. -/
theorem lookups_agree (reached : Reachable setup dashboard) :
    (∀ kind datacenter key object,
      dashboard.snapshot.getByKey kind datacenter key = .ok object ↔
        object ∈ dashboard.snapshot.list kind ∧ object.datacenter = datacenter ∧
          object.key = key) ∧
    (∀ kind datacenter key object,
      dashboard.snapshot.getByKey kind datacenter key = .ok object →
        ((dashboard.snapshot.list kind).filter fun other =>
          decide ((other.datacenter, other.key) = (datacenter, key))) = [object]) ∧
    (∀ kind datacenter key,
      (∀ object, dashboard.snapshot.getByKey kind datacenter key ≠ .ok object) →
        dashboard.snapshot.getByKey kind datacenter key = .error (.notFound kind.name key)) ∧
    (∀ kind name, ∃ found,
      dashboard.snapshot.findByName kind name = .ok found ∧
      (found.map (·.datacenter)).Nodup ∧
      found = setup.registry.names.filterMap fun datacenter =>
        (dashboard.snapshot.getByKey kind datacenter name).toOption) := by
  have sound := reached.sound
  refine ⟨fun kind datacenter key object => sound.getByKey_eq_ok_iff, ?_, ?_, ?_⟩
  · intro kind datacenter key object found
    obtain ⟨listed, rfl, rfl⟩ := sound.getByKey_eq_ok_iff.mp found
    exact sound.filter_place_eq_singleton listed
  · intro kind datacenter key missed
    refine sound.getByKey_eq_notFound fun object listed owned keyed => ?_
    exact missed object (sound.getByKey_eq_ok_iff.mpr ⟨listed, owned, keyed⟩)
  · intro kind name
    refine ⟨_, reached.findByName_eq kind name, ?_, ?_⟩
    · refine (sound.datacenters_sublist kind name).nodup ?_
      rw [reached.slice_names]
      exact setup.registry.nodup_names
    · rw [sound.filter_key_eq_filterMap, reached.slice_names]
      exact List.filterMap_congr fun datacenter _ => (Snapshot.toOption_getByKey kind _ name).symm

/-- The silence that a poll has found is found by its place, and by its name as the only one. In
another datacenter there is none of that name. -/
theorem lookups_agree_silence :
    Reachable Sample.setup (Sample.polled Sample.oneSilence) ∧
      (Sample.polled Sample.oneSilence).snapshot.getByKey .silence "east" "windows:*" =
        .ok Sample.windowsSilence ∧
      (Sample.polled Sample.oneSilence).snapshot.findByName .silence "windows:*" =
        .ok [Sample.windowsSilence] ∧
      (Sample.polled Sample.oneSilence).snapshot.getByKey .silence "west" "windows:*" =
        .error (.notFound "silence" "windows:*") := by
  have reached := Sample.reachable_polled Sample.oneSilence
  have listed := Sample.list_polled_oneSilence
  obtain ⟨placed, -, missing, named⟩ := lookups_agree reached
  have held : (Sample.polled Sample.oneSilence).snapshot.getByKey .silence "east" "windows:*" =
      .ok Sample.windowsSilence :=
    (placed .silence "east" "windows:*" Sample.windowsSilence).mpr
      ⟨listed ▸ List.mem_singleton_self _, rfl, rfl⟩
  obtain ⟨found, answer, -, hits⟩ := named .silence "windows:*"
  refine ⟨reached, held, ?_, missing .silence "west" "windows:*" fun object same => ?_⟩
  · rw [answer, hits]
    show Except.ok ([("east" : String)].filterMap _) = _
    simp only [List.filterMap_cons, held, List.filterMap_nil]
    rfl
  · obtain ⟨member, owned, -⟩ := (placed .silence "west" "windows:*" object).mp same
    rw [listed] at member
    rw [List.mem_singleton.mp member] at owned
    exact absurd owned (by decide)

end Dashboard

end FleetView
