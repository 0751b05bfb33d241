/-
This file is about the report that a poll is shown as. It lists each datacenter once,
under its name and in the order of the names, with the health that the snapshot has for it;
and as long as the counts are below the limit of 64 bits, what is printed is read back as
the report that was meant.
-/

import FleetView.Cli.Report
import FleetView.Proofs.Printing
import FleetView.Proofs.Summaries
import FleetView.Proofs.Wire

namespace FleetView

/-- The value that is found by going down from name to name. -/
def Json.under? (value : Json) (path : List String) : Option Json := path.foldlM Json.field? value

namespace Cli

/-! ### The datacenters -/

/-- The statuses of a report, each under the name of its datacenter. -/
def statusMembers (style : TimeStyle) (snapshot : Snapshot) : Bag :=
  snapshot.health.map fun status => (status.name, status.toJsonWith style.json)

section

variable (style : TimeStyle) (snapshot : Snapshot)

theorem pollJson_datacenters :
    (pollJson style snapshot).under? ["health", "datacenters"] =
      some (.object (statusMembers style snapshot)) := rfl

theorem sorted_statusMembers : Bag.Sorted (statusMembers style snapshot) :=
  List.pairwise_map.mpr (Snapshot.ascending_health snapshot)

/-- Where the datacenters have different names, the report names each of them once. -/
theorem names_statusMembers {snapshot : Snapshot}
    (distinct : (snapshot.slices.map (·.status.name)).Nodup) :
    ((statusMembers style snapshot).map Prod.fst).Perm
      (snapshot.slices.map (·.status.name)) := by
  have named : (statusMembers style snapshot).map Prod.fst = snapshot.health.map (·.name) :=
    List.map_map
  have slices : snapshot.slices.map (·.status.name) =
      (snapshot.slices.map (·.status)).map (·.name) := List.map_map.symm
  rw [named, slices]
  exact (Snapshot.health_perm distinct).map _

theorem mem_statusMembers {snapshot : Snapshot}
    (distinct : (snapshot.slices.map (·.status.name)).Nodup) {slice : Slice}
    (member : slice ∈ snapshot.slices) :
    (slice.status.name, slice.status.toJsonWith style.json) ∈ statusMembers style snapshot := by
  refine List.mem_map_of_mem ((Snapshot.health_perm distinct).mem_iff.mpr ?_)
  exact List.mem_map_of_mem member

end

/-- A status is shown as reachable exactly when it is. -/
theorem health_toJsonWith_iff {time : Instant → String} {status : Status} :
    (status.toJsonWith time).field? "health" = some (.string "reachable") ↔
      status.isReachable = true := by
  have shown : (status.toJsonWith time).field? "health" = some (.string status.health.name) := rfl
  rw [shown, Option.some.injEq, Json.string.injEq, Status.isReachable, decide_eq_true_eq]
  cases status.health <;> decide

/-! ### Reading it back -/

section

variable {sort : Number → Prop} {room : Nat}

theorem legible_status (time : Instant → String) (status : Status) :
    (Document.ofJson (status.toJsonWith time)).Legible sort (room + 1) := by
  have polled : (Document.ofJson (Json.option (fun polled => .string (time polled))
      status.lastPoll)).Legible sort room := by
    cases status.lastPoll with
    | none => exact (stands_text none).legible
    | some polled => exact (Decoder.stands_string (time polled)).legible
  refine Document.legible_ofJson_object_iff.mpr ?_
  simp only [List.forall_mem_cons]
  exact ⟨(Decoder.stands_string _).legible, (Decoder.stands_string _).legible,
    (stands_text _).legible, polled, (Decoder.stands_bool _).legible, nofun⟩

theorem legible_nat {count : Nat} (below : count < Word.count 64) :
    (Document.ofJson (.nat count)).Legible Number.Whole room := by
  have stands : (Decoder.natural "a count").Stands Number.Whole room (.nat count) count :=
    Decoder.stands_natural below ⟨by omega, by omega⟩
  exact stands.legible

/-- Counts under names. -/
theorem legible_counts {Item : Type} {name : Item → String} {counts : List (Item × Nat)}
    (below : ∀ entry ∈ counts, entry.2 < Word.count 64) :
    (Document.ofJson (.object (counts.map fun entry => (name entry.1, .nat entry.2)))).Legible
      Number.Whole (room + 1) := by
  refine Document.legible_ofJson_object_iff.mpr (List.forall_mem_map.mpr fun entry listed => ?_)
  exact legible_nat (below entry listed)

end

/-- The counts of a snapshot fit into 64 bits. -/
structure Countable (snapshot : Snapshot) : Prop where
  generation : snapshot.generation < Word.count 64
  objects : ∀ kind, (snapshot.list kind).length < Word.count 64
  datacenters : snapshot.slices.length < Word.count 64

/-- No number of the counts is larger than that of some objects or of the datacenters. -/
theorem legible_metrics {snapshot : Snapshot} {room : Nat} (countable : Countable snapshot) :
    (Document.ofJson snapshot.metrics.toJson).Legible Number.Whole (room + 2) := by
  have agree := snapshot.metrics_agree
  have events := countable.objects .event
  have objects : ∀ entry ∈ snapshot.metrics.objects, entry.2 < Word.count 64 := by
    intro entry listed
    obtain ⟨kind, -, rfl⟩ := List.mem_map.mp listed
    exact (snapshot.merged.count_eq kind).trans_lt (countable.objects kind)
  have severities : ∀ entry ∈ snapshot.metrics.eventsBySeverity, entry.2 < Word.count 64 := by
    intro entry listed
    rw [agree.bySeverity entry listed]
    exact lt_of_le_of_lt List.countP_le_length events
  have silenced : snapshot.metrics.silencedEvents < Word.count 64 := by
    rw [agree.silenced]
    exact lt_of_le_of_lt List.countP_le_length events
  refine Document.legible_ofJson_object_iff.mpr ?_
  simp only [List.forall_mem_cons]
  exact ⟨legible_nat countable.generation, legible_counts objects, legible_counts severities,
    legible_nat silenced, legible_nat countable.datacenters,
    legible_nat (lt_of_le_of_lt agree.within countable.datacenters), nofun⟩

/-- What is printed is read as the report, and nothing but spaces is behind it. -/
theorem read_pollJson (style : TimeStyle) {snapshot : Snapshot} (countable : Countable snapshot) :
    Document.read ((pollJson style snapshot).pretty ++ "\n") =
      ⟨Document.ofJson (pollJson style snapshot), false⟩ := by
  have statuses : (Document.ofJson (.object (statusMembers style snapshot))).Legible
      Number.Whole (123 + 2) :=
    Document.legible_ofJson_object_iff.mpr
      (List.forall_mem_map.mpr fun status _ => legible_status style.json status)
  have health : (Document.ofJson (.object
      [("ok", .bool snapshot.healthReport.ok), ("generation", .nat snapshot.generation),
       ("datacenters", .object (statusMembers style snapshot))])).Legible
        Number.Whole (123 + 3) := by
    refine Document.legible_ofJson_object_iff.mpr ?_
    simp only [List.forall_mem_cons]
    exact ⟨(Decoder.stands_bool _).legible, legible_nat countable.generation, statuses, nofun⟩
  refine Document.read_pretty (Document.legible_ofJson_object_iff.mpr ?_ :
    (Document.ofJson (pollJson style snapshot)).Legible Number.Whole (123 + 4))
  simp only [List.forall_mem_cons]
  exact ⟨health, legible_metrics countable, nofun⟩

end Cli

end FleetView
