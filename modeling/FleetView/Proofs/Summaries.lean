/-
This file proves that the summaries of a snapshot agree with what is in it. The
counts are compared with the merged lists and the slices. The statuses are put
into the order of their names one by one, a status replacing another of its name;
where the names are distinct nothing is replaced, so the overall health looks at
each datacenter once.
-/

import FleetView.Proofs.Wellformed

namespace FleetView

/-! ### The statuses by name -/

namespace Status

/-- Where no status has the name yet, nothing is replaced. -/
theorem insertByName_perm {status : Status} {statuses : List Status}
    (fresh : status.name ∉ statuses.map (·.name)) :
    (status.insertByName statuses).Perm (status :: statuses) := by
  induction statuses with
  | nil => exact List.Perm.refl _
  | cons other rest inductionHypothesis =>
    rw [List.map_cons, List.mem_cons, not_or] at fresh
    rw [insertByName]
    split
    · exact List.Perm.refl _
    · rw [if_neg fresh.1]
      exact ((inductionHypothesis fresh.2).cons other).trans (List.Perm.swap status other rest)

theorem mem_insertByName {status found : Status} {statuses : List Status}
    (member : found ∈ status.insertByName statuses) : found = status ∨ found ∈ statuses := by
  induction statuses with
  | nil => exact Or.inl (List.mem_singleton.mp member)
  | cons other rest inductionHypothesis =>
    rw [insertByName] at member
    split at member
    · exact List.mem_cons.mp member
    · split at member
      · exact (List.mem_cons.mp member).imp id (List.mem_cons_of_mem other)
      · rcases List.mem_cons.mp member with same | later
        · exact Or.inr (same ▸ List.mem_cons_self)
        · exact (inductionHypothesis later).imp id (List.mem_cons_of_mem other)

theorem ascending_insertByName (status : Status) {statuses : List Status}
    (ascending : Ascending Status.name statuses) :
    Ascending Status.name (status.insertByName statuses) := by
  induction statuses with
  | nil => exact List.pairwise_singleton _ _
  | cons other rest inductionHypothesis =>
    rw [insertByName]
    split
    · rename_i below
      exact ascending.before below
    · split
      · rename_i same
        exact ascending.instead same
      · rename_i beyond differs
        refine ascending.behind beyond differs
          (inductionHypothesis (List.Pairwise.of_cons ascending)) fun found member => ?_
        exact (mem_insertByName member).imp (congrArg Status.name) id

end Status

namespace Snapshot

theorem ascending_health (snapshot : Snapshot) : Ascending Status.name snapshot.health := by
  unfold health
  refine List.foldlRecOn snapshot.slices _ List.Pairwise.nil fun statuses ascending slice _ => ?_
  exact slice.status.ascending_insertByName ascending

/-- With distinct names every status is there once. -/
theorem health_perm {snapshot : Snapshot}
    (distinct : (snapshot.slices.map (·.status.name)).Nodup) :
    snapshot.health.Perm (snapshot.slices.map (·.status)) := by
  -- The names in place and those still to come are distinct at every step.
  have put : ∀ (slices : List Slice) (statuses : List Status),
      (statuses.map (·.name) ++ slices.map (·.status.name)).Nodup →
        (slices.foldl (fun statuses slice => slice.status.insertByName statuses) statuses).Perm
          (statuses ++ slices.map (·.status)) := by
    intro slices
    induction slices with
    | nil => exact fun statuses _ => List.Perm.of_eq (List.append_nil _).symm
    | cons slice rest inductionHypothesis =>
      intro statuses apart
      rw [List.map_cons, List.nodup_middle, List.nodup_cons] at apart
      have fresh : slice.status.name ∉ statuses.map (·.name) := fun old =>
        apart.1 (List.mem_append_left _ old)
      have placed := Status.insertByName_perm fresh
      refine (inductionHypothesis _ ?_).trans ?_
      · refine (((placed.map (·.name)).append_right _).nodup_iff).mpr ?_
        exact List.nodup_cons.mpr apart
      · exact (placed.append_right _).trans List.perm_middle.symm
  exact put snapshot.slices [] distinct

/-- All is well exactly when as many datacenters are reachable as there are. -/
theorem healthReport_ok_iff {snapshot : Snapshot}
    (distinct : (snapshot.slices.map (·.status.name)).Nodup) :
    snapshot.healthReport.ok = true ↔
      snapshot.metrics.datacentersReachable = snapshot.metrics.datacentersTotal := by
  have same : snapshot.healthReport.ok = snapshot.slices.all (·.status.isReachable) := by
    show snapshot.health.all (·.isReachable) = _
    rw [(health_perm distinct).all_eq, List.all_map]
    rfl
  rw [same, List.all_eq_true]
  exact List.length_filter_eq_length_iff.symm

end Snapshot

/-! ### The counts -/

/-- Whether an object is an event of a severity. -/
def Object.isOfSeverity (severity : Severity) : Object → Bool
  | .event held => held.severity = severity
  | _ => false

/-- Whether an object is a silenced event. -/
def Object.isSilenced : Object → Bool
  | .event held => held.silenced
  | _ => false

/-- What the counts have to satisfy: each agrees with the merged lists or with the slices. -/
structure Metrics.Agree (metrics : Metrics) (snapshot : Snapshot) : Prop where
  generation : metrics.generation = snapshot.generation
  objects : ∀ kind, metrics.objects.lookup kind = some (snapshot.list kind).length
  severities : ∀ severity, severity ∈ metrics.eventsBySeverity.map Prod.fst ↔
    ∃ object ∈ snapshot.list .event, object.isOfSeverity severity
  bySeverity : ∀ entry ∈ metrics.eventsBySeverity,
    entry.2 = (snapshot.list .event).countP (·.isOfSeverity entry.1)
  distinct : (metrics.eventsBySeverity.map Prod.fst).Nodup
  sum : (metrics.eventsBySeverity.map Prod.snd).sum = (snapshot.list .event).length
  silenced : metrics.silencedEvents = (snapshot.list .event).countP (·.isSilenced)
  total : metrics.datacentersTotal = snapshot.slices.length
  reachable : metrics.datacentersReachable = snapshot.slices.countP (·.status.isReachable)
  within : metrics.datacentersReachable ≤ metrics.datacentersTotal

/-- Each event has one severity. -/
theorem Severity.sum_counts (events : List Event) :
    (Severity.all.map fun severity =>
      (events.filter fun event => event.severity = severity).length).sum = events.length := by
  induction events with
  | nil => rfl
  | cons event rest inductionHypothesis =>
    rw [List.length_cons, ← inductionHypothesis]
    cases severe : event.severity <;> simp [Severity.all, severe] <;> omega

/-- Counts of nothing can be left out of a sum. -/
theorem Severity.sum_occurring (counts : List (Severity × Nat)) :
    ((counts.filter fun entry => entry.2 ≠ 0).map Prod.snd).sum = (counts.map Prod.snd).sum := by
  induction counts with
  | nil => rfl
  | cons entry rest inductionHypothesis =>
    rw [List.map_cons, List.sum_cons, ← inductionHypothesis]
    by_cases nothing : entry.2 = 0
    · rw [List.filter_cons_of_neg (by simpa using nothing), nothing, Nat.zero_add]
    · rw [List.filter_cons_of_pos (by simpa using nothing), List.map_cons, List.sum_cons]

namespace Snapshot

variable (snapshot : Snapshot)

theorem length_filter_severity (severity : Severity) :
    (snapshot.merged.events.filter fun event => event.severity = severity).length =
      (snapshot.list .event).countP (·.isOfSeverity severity) := by
  rw [← List.countP_eq_length_filter, list, Collections.objects, List.countP_map]
  rfl

/-- A severity is counted when it occurs, and with the number of its events. -/
theorem mem_eventsBySeverity_iff {severity : Severity} {count : Nat} :
    (severity, count) ∈ snapshot.metrics.eventsBySeverity ↔
      (snapshot.list .event).countP (·.isOfSeverity severity) = count ∧ count ≠ 0 := by
  have listed : severity ∈ Severity.all := by cases severity <;> decide
  rw [metrics, List.mem_filter, List.mem_map, decide_eq_true_eq]
  constructor
  · rintro ⟨⟨other, -, same⟩, occurs⟩
    obtain ⟨rfl, rfl⟩ := Prod.mk.inj same
    exact ⟨(snapshot.length_filter_severity other).symm, occurs⟩
  · rintro ⟨rfl, occurs⟩
    exact ⟨⟨severity, listed, congrArg (Prod.mk severity) (length_filter_severity _ _)⟩, occurs⟩

theorem metrics_agree : snapshot.metrics.Agree snapshot where
  generation := rfl
  objects := by
    intro kind
    rw [list, ← Collections.count_eq]
    cases kind <;> rfl
  severities := by
    intro severity
    rw [← List.countP_pos_iff]
    constructor
    · intro member
      obtain ⟨entry, listed, rfl⟩ := List.mem_map.mp member
      obtain ⟨same, occurs⟩ := snapshot.mem_eventsBySeverity_iff.mp listed
      exact same ▸ Nat.pos_of_ne_zero occurs
    · intro occurs
      exact List.mem_map.mpr
        ⟨_, snapshot.mem_eventsBySeverity_iff.mpr ⟨rfl, Nat.ne_of_gt occurs⟩, rfl⟩
  bySeverity := fun _ listed => (snapshot.mem_eventsBySeverity_iff.mp listed).1.symm
  distinct := by
    refine List.Nodup.sublist (List.filter_sublist.map Prod.fst) ?_
    rw [List.map_map]
    exact (by decide : Severity.all.Nodup)
  sum := by
    rw [metrics, Severity.sum_occurring, List.map_map]
    exact (Severity.sum_counts snapshot.merged.events).trans (List.length_map _).symm
  silenced := by
    rw [metrics, ← List.countP_eq_length_filter, list, Collections.objects, List.countP_map]
    rfl
  total := rfl
  reachable := List.countP_eq_length_filter.symm
  within := List.length_filter_le _ _

end Snapshot

/-! ### Runs -/

/-- What a snapshot has to satisfy after some cycles: it is sound, it has what was delivered last,
and its summaries agree with it. -/
structure Snapshot.Wellformed (snapshot : Snapshot) (setup : Setup) (cycles : List Cycle) :
    Prop where
  names : snapshot.slices.map (·.status.name) = setup.registry.names
  sound : snapshot.Sound
  delivered : ∀ datacenter ∈ setup.registry.datacenters, ∀ earlier last fetched,
    cycles = earlier ++ [last] →
      (datacenter.backend setup.policy).connection.Delivers (last.networks datacenter.name)
        fetched →
        ∃ slice, snapshot.slice? datacenter.name = some slice ∧
          slice.status.isReachable = true ∧ slice.data.Thinned datacenter.name fetched
  reachable : ∀ slice ∈ snapshot.slices, slice.status.isReachable = true →
    ∃ datacenter ∈ setup.registry.datacenters, datacenter.name = slice.status.name ∧
      ∃ earlier last fetched, cycles = earlier ++ [last] ∧
        (datacenter.backend setup.policy).connection.Delivers (last.networks datacenter.name)
          fetched
  merged : ∀ kind,
    snapshot.list kind = snapshot.slices.flatMap fun slice => slice.data.objects kind
  places : ∀ kind, ((snapshot.list kind).map fun object =>
    (object.kind, object.datacenter, object.key)).Nodup
  metrics : snapshot.metrics.Agree snapshot
  statuses : snapshot.healthReport.datacenters.Perm (snapshot.slices.map (·.status))
  ascending : Ascending Status.name snapshot.healthReport.datacenters
  health : snapshot.healthReport.ok = true ↔
    snapshot.metrics.datacentersReachable = snapshot.metrics.datacentersTotal

/-- A slice is reachable only behind a poll that got through. -/
theorem Datacenter.polled_of_reachable {datacenter : Datacenter} {policy : Policy}
    {cycles : List Cycle}
    (reachable : (datacenter.recounted policy cycles).status.isReachable = true) :
    ∃ earlier last fetched, cycles = earlier ++ [last] ∧
      datacenter.polled policy last = .ok fetched := by
  rcases List.eq_nil_or_concat' cycles with rfl | ⟨earlier, last, rfl⟩
  · cases reachable
  · cases brought : datacenter.polled policy last with
    | ok fetched => exact ⟨earlier, last, fetched, rfl, brought⟩
    | error reason =>
      rw [recounted_of_error datacenter policy brought] at reachable
      cases reachable

theorem Setup.recounted_wellformed (setup : Setup) (cycles : List Cycle) :
    (setup.recounted cycles).Wellformed setup cycles where
  names := setup.recounted_names cycles
  sound := setup.recounted_sound cycles
  delivered := by
    rintro datacenter member earlier last fetched rfl delivers
    have brought : datacenter.polled setup.policy last = .ok fetched :=
      Backend.poll_eq_ok_iff.mpr delivers
    refine ⟨_, setup.recounted_slice? _ member, ?_⟩
    rw [Datacenter.recounted_of_ok datacenter setup.policy brought]
    exact ⟨rfl, Collections.ofFetched_thinned _ _⟩
  reachable := by
    intro slice listed reachable
    obtain ⟨datacenter, member, rfl⟩ := List.mem_map.mp listed
    obtain ⟨earlier, last, fetched, rfl, brought⟩ := Datacenter.polled_of_reachable reachable
    exact ⟨datacenter, member, (datacenter.recounted_name _ _).symm, earlier, last, fetched, rfl,
      Backend.poll_eq_ok_iff.mp brought⟩
  merged := Snapshot.list_eq_flatMap _
  places := (setup.recounted_sound cycles).nodup_places
  metrics := Snapshot.metrics_agree _
  statuses := Snapshot.health_perm (setup.recounted_sound cycles).distinct
  ascending := Snapshot.ascending_health _
  health := Snapshot.healthReport_ok_iff (setup.recounted_sound cycles).distinct

namespace Dashboard

/-- However polls and other uses follow each other, the snapshot is well formed. -/
theorem run_wellformed {setup : Setup} {files : Files} {fresh : Dashboard}
    (built : build setup files = .ok fresh) (uses : List Use) :
    (fresh.run uses).snapshot.Wellformed setup (cycles uses) := by
  rw [run_snapshot built, setup.snapshotAfter_eq_recounted]
  exact setup.recounted_wellformed (cycles uses)

/-- Of two silences with one id the first stays, and it alone is counted. -/
theorem run_wellformed_repeated :
    build Sample.setup (fun _ => .vacant "") = .ok Sample.fresh ∧
      ∃ slice,
        (Sample.fresh.run [.poll (Sample.answering Sample.repeatedSilence) ⟨1, 0⟩]).snapshot.slice?
          "east" = some slice ∧
        slice.data.silences.map (·.subscription) = [some "windows"] := by
  have built := Sample.built fun _ => .vacant ""
  have wellformed := run_wellformed built
    [.poll (Sample.answering Sample.repeatedSilence) ⟨1, 0⟩]
  have brought : (Sample.east.backend Sample.setup.policy).poll
      (Sample.answering Sample.repeatedSilence "east") =
        .ok ⟨[], [], [], [], [], [⟨"windows:*", some "windows", none, none, none, none, false, []⟩,
          ⟨"windows:*", some "linux", none, none, none, none, false, []⟩]⟩ :=
    eq_ok_of_toOption_eq_some (by decide +kernel)
  obtain ⟨slice, found, -, thinned⟩ := wellformed.delivered Sample.east List.mem_cons_self []
    ⟨Sample.answering Sample.repeatedSilence, ⟨1, 0⟩⟩ _ rfl (Backend.poll_eq_ok_iff.mp brought)
  refine ⟨built, slice, found, ?_⟩
  rw [thinned.silences]
  decide

end Dashboard

end FleetView
