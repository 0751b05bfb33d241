/-
This file proves that reads show a caller the visible part of a snapshot and nothing
of the rest. Resolving a name searches all objects first and leaves out those that are
hidden afterwards, so what is hidden could make a name ambiguous or make the search
fail. On snapshots that a run leads to it does neither: the outcome is the one that
the visible objects alone decide, and two snapshots that look alike to a caller answer
alike.
-/

import FleetView.Proofs.Lookup
import FleetView.Proofs.Confinement

namespace FleetView

/-- What a name comes to where some objects remain in question. -/
structure Resolution.DecidedOn (resolution : Resolution) (remaining : List Object) : Prop where
  notFound : resolution = .notFound ↔ remaining = []
  resolved : ∀ object, resolution = .resolved object ↔ remaining = [object]
  ambiguous : ∀ objects, resolution = .ambiguous objects ↔
    objects = remaining ∧ 2 ≤ remaining.length

theorem Resolution.ofMatches_decidedOn (remaining : List Object) :
    (ofMatches remaining).DecidedOn remaining := by
  match remaining with
  | [] =>
    exact ⟨iff_of_true rfl rfl, fun _ => iff_of_false nofun nofun,
      fun _ => iff_of_false nofun fun two => nomatch two.2⟩
  | [object] =>
    refine ⟨iff_of_false nofun nofun, fun other => ?_, fun _ => iff_of_false nofun ?_⟩
    · rw [ofMatches, Resolution.resolved.injEq, List.cons.injEq, and_iff_left rfl]
    · exact fun found => Nat.not_succ_le_self 1 found.2
  | one :: other :: more =>
    refine ⟨iff_of_false nofun nofun, fun _ => iff_of_false nofun nofun, fun objects => ?_⟩
    have two : 2 ≤ (one :: other :: more).length := Nat.le_add_left 2 more.length
    show Resolution.ambiguous (one :: other :: more) = .ambiguous objects ↔ _
    rw [Resolution.ambiguous.injEq, and_iff_left two, eq_comm]

namespace Identity

theorem maySee_datacenter (identity : Identity) (status : Status) :
    identity.maySee (.datacenter status) = identity.mayEnter status.name := by
  unfold maySee sees
  rw [Subject.owner, Subject.tags, Bool.and_eq_left_iff_imp]
  cases identity.subscriptions <;> exact fun _ => rfl

/-- Only the datacenters that a caller may enter have anything to see. -/
theorem mayEnter_of_maySee {identity : Identity} {subject : Subject}
    (visible : identity.maySee subject = true) : identity.mayEnter subject.owner = true :=
  (Bool.and_eq_true_iff.mp visible).1

theorem filter_list (identity : Identity) (snapshot : Snapshot) (kind : Kind) :
    identity.filter kind (snapshot.list kind) =
      (snapshot.list kind).filter fun object => identity.maySee (.object object) := by
  refine List.filter_congr fun object listed => ?_
  rw [decide_eq_true (Snapshot.kind_of_mem_list listed), Bool.true_and]

end Identity

namespace Snapshot

/-- Two snapshots that look alike to a caller: the datacenters in sight come in one order, as they
do under one registry, and each has one status; and the objects in sight are the same, in their
order. -/
structure AgreeFor (identity : Identity) (one other : Snapshot) : Prop where
  order : (one.slices.map (·.status.name)).filter identity.mayEnter =
    (other.slices.map (·.status.name)).filter identity.mayEnter
  statuses : ∀ datacenter, identity.mayEnter datacenter = true →
    (one.slice? datacenter).map (·.status) = (other.slice? datacenter).map (·.status)
  objects : ∀ kind,
    (one.list kind).filter (fun object => identity.maySee (.object object)) =
      (other.list kind).filter fun object => identity.maySee (.object object)

variable {identity : Identity} {snapshot one other : Snapshot}

theorem visibleDatacenters_names (identity : Identity) (snapshot : Snapshot) :
    (snapshot.visibleDatacenters identity).map (·.name) =
      (snapshot.slices.map (·.status.name)).filter identity.mayEnter := by
  have split : snapshot.slices.map (·.status.name) =
      (snapshot.slices.map (·.status)).map (·.name) := List.map_map.symm
  rw [visibleDatacenters, split]
  generalize snapshot.slices.map (·.status) = statuses
  rw [List.filter_map]
  refine congrArg (List.map _) (List.filter_congr fun status _ => ?_)
  exact identity.maySee_datacenter status

/-- The statuses in sight are those under the names in sight. -/
theorem Sound.visibleDatacenters_eq (sound : snapshot.Sound) (identity : Identity) :
    snapshot.visibleDatacenters identity =
      ((snapshot.slices.map (·.status.name)).filter identity.mayEnter).filterMap fun datacenter =>
        (snapshot.slice? datacenter).map (·.status) := by
  rw [← visibleDatacenters_names, List.filterMap_map]
  refine Eq.trans List.filterMap_some.symm (List.filterMap_congr fun status visible => ?_)
  obtain ⟨slice, listed, rfl⟩ := List.mem_map.mp (List.mem_of_mem_filter visible)
  rw [Function.comp_apply, sound.slice?_eq_some_iff.mpr ⟨listed, rfl⟩]
  rfl

theorem AgreeFor.visibleDatacenters_eq (agree : AgreeFor identity one other) (oneSound : one.Sound)
    (otherSound : other.Sound) :
    one.visibleDatacenters identity = other.visibleDatacenters identity := by
  rw [oneSound.visibleDatacenters_eq, otherSound.visibleDatacenters_eq, ← agree.order]
  refine List.filterMap_congr fun datacenter entered => ?_
  exact agree.statuses datacenter (List.mem_filter.mp entered).2

theorem AgreeFor.filter_eq (agree : AgreeFor identity one other) (kind : Kind) :
    identity.filter kind (one.list kind) = identity.filter kind (other.list kind) := by
  rw [identity.filter_list, identity.filter_list, agree.objects]

/-- What a caller sees of the objects of a name comes from datacenters in sight, in their order,
with at most one object from each. -/
theorem Sound.seen_datacenters_sublist (sound : snapshot.Sound) (identity : Identity) (kind : Kind)
    (name : String) :
    (((identity.filter kind (snapshot.list kind)).filter fun object =>
      decide (object.key = name)).map (·.datacenter)).Sublist
        ((snapshot.visibleDatacenters identity).map (·.name)) := by
  rw [visibleDatacenters_names, identity.filter_list, List.filter_comm]
  have entered : ∀ datacenter ∈ (((snapshot.list kind).filter fun object =>
      decide (object.key = name)).filter fun object =>
        identity.maySee (.object object)).map (·.datacenter),
      identity.mayEnter datacenter = true := by
    intro datacenter there
    obtain ⟨object, seen, rfl⟩ := List.mem_map.mp there
    exact Identity.mayEnter_of_maySee (List.mem_filter.mp seen).2
  rw [← List.filter_eq_self.mpr entered]
  refine List.Sublist.filter _ (List.Sublist.trans ?_ (sound.datacenters_sublist kind name))
  exact List.filter_sublist.map _

end Snapshot

namespace Dashboard

variable {setup otherSetup : Setup} {one other : Dashboard} {identity : Identity}

/-- Resolving a name for a caller never fails, and comes to what is left of the name among the
objects in sight. -/
theorem Reachable.resolveFor_eq (reached : Reachable setup one) (identity : Identity) (kind : Kind)
    (name : String) :
    one.snapshot.resolveFor identity kind name =
      .ok (.ofMatches ((identity.filter kind (one.snapshot.list kind)).filter fun object =>
        decide (object.key = name))) := by
  rw [Snapshot.resolveFor, reached.findByName_eq, identity.filter_list, List.filter_comm]
  rfl

/-- Snapshots that look alike to a caller show the caller the same datacenters and the same objects,
and resolve every name alike. The outcome is decided by the objects of the name that remain in
sight; these come from different datacenters in sight, in the order of the registry. -/
theorem reads_agree (oneReached : Reachable setup one) (otherReached : Reachable otherSetup other)
    (agree : one.snapshot.AgreeFor identity other.snapshot) :
    one.snapshot.visibleDatacenters identity = other.snapshot.visibleDatacenters identity ∧
    (∀ kind, identity.filter kind (one.snapshot.list kind) =
      identity.filter kind (other.snapshot.list kind)) ∧
    (∀ kind name, one.snapshot.resolveFor identity kind name =
      other.snapshot.resolveFor identity kind name) ∧
    (one.snapshot.visibleDatacenters identity).map (·.name) =
      setup.registry.names.filter identity.mayEnter ∧
    ∀ kind name, ∃ resolution remaining,
      one.snapshot.resolveFor identity kind name = .ok resolution ∧
      remaining = ((identity.filter kind (one.snapshot.list kind)).filter fun object =>
        decide (object.key = name)) ∧
      resolution.DecidedOn remaining ∧
      (remaining.map (·.datacenter)).Sublist
        ((one.snapshot.visibleDatacenters identity).map (·.name)) ∧
      (remaining.map (·.datacenter)).Nodup := by
  have oneSound := oneReached.sound
  have named : (one.snapshot.visibleDatacenters identity).map (·.name) =
      setup.registry.names.filter identity.mayEnter := by
    rw [Snapshot.visibleDatacenters_names, oneReached.slice_names]
  refine ⟨agree.visibleDatacenters_eq oneSound otherReached.sound, agree.filter_eq,
    fun kind name => ?_, named, fun kind name => ?_⟩
  · rw [oneReached.resolveFor_eq, otherReached.resolveFor_eq, agree.filter_eq]
  · have within := oneSound.seen_datacenters_sublist identity kind name
    refine ⟨_, _, oneReached.resolveFor_eq identity kind name, rfl,
      Resolution.ofMatches_decidedOn _, within, within.nodup ?_⟩
    rw [named]
    exact setup.registry.nodup_names.filter _

end Dashboard

namespace Sample

theorem snapshot_polled_nothing :
    (polled "[]").snapshot =
      ⟨1, [⟨Status.reachable "east" ⟨1, 0⟩, Collections.empty⟩]⟩ := by
  have brought : east.polled setup.policy ⟨answering "[]", ⟨1, 0⟩⟩ =
      .ok ⟨[], [], [], [], [], []⟩ := eq_ok_of_toOption_eq_some (by decide +kernel)
  exact Dashboard.snapshot_run_poll (built fun _ => .vacant "") rfl brought

/-- Who looks after linux cannot tell a poll that finds one silence for windows from a poll that
finds nothing. -/
theorem agreeFor_nothing :
    (polled oneSilence).snapshot.AgreeFor (operator "linux") (polled "[]").snapshot := by
  rw [snapshot_polled_oneSilence, snapshot_polled_nothing]
  refine ⟨rfl, fun datacenter _ => ?_, fun kind => ?_⟩
  · simp only [Snapshot.slice?, List.find?_cons, List.find?_nil]
    cases decide ((Status.reachable "east" ⟨1, 0⟩).name = datacenter) <;> rfl
  · cases kind <;> decide +kernel

end Sample

/-- A silence that is out of sight is not found by its name, whereas an operator of its scope finds
it. -/
theorem Dashboard.reads_agree_hidden :
    Reachable Sample.setup (Sample.polled Sample.oneSilence) ∧
      Reachable Sample.setup (Sample.polled "[]") ∧
      (Sample.polled Sample.oneSilence).snapshot.AgreeFor (Sample.operator "linux")
        (Sample.polled "[]").snapshot ∧
      (Sample.polled Sample.oneSilence).snapshot.resolveFor (Sample.operator "linux") .silence
        "windows:*" = .ok .notFound ∧
      (Sample.polled Sample.oneSilence).snapshot.resolveFor (Sample.operator "windows") .silence
        "windows:*" = .ok (.resolved Sample.windowsSilence) := by
  have reached := Sample.reachable_polled Sample.oneSilence
  have otherReached := Sample.reachable_polled "[]"
  obtain ⟨-, -, resolved, -⟩ := reads_agree reached otherReached Sample.agreeFor_nothing
  refine ⟨reached, otherReached, Sample.agreeFor_nothing, (resolved .silence _).trans ?_, ?_⟩
  · rw [Sample.snapshot_polled_nothing]
    rfl
  · -- Its own operator sees all there is, so nothing is left out of what the name comes to.
    have all : (Sample.operator "windows").filter .silence [Sample.windowsSilence] =
        [Sample.windowsSilence] := by decide +kernel
    rw [reached.resolveFor_eq, Sample.list_polled_oneSilence, all]
    rfl

end FleetView
