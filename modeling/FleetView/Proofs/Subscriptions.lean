/-
This file proves the order of the subscriptions that are derived from the clients
and checks of a datacenter. The tally they are read off stays strictly ascending
by name while carriers are counted into it, so no name comes twice; the names
without characters are taken out at the end. What is left are the names that some
client or check carries.
-/

import FleetView.Proofs.Ordered
import FleetView.Object.Tagging

namespace FleetView

namespace Subscription

/-! ### Counting keeps a tally ascending -/

/-- Counting a carrier of a name changes no entry of another name. -/
theorem mem_of_mem_tally {name : String} {carriers : Nat} {counts : List (String × Nat)}
    {found : String × Nat} (member : found ∈ tally name carriers counts) :
    found.1 = name ∨ found ∈ counts := by
  induction counts with
  | nil => exact Or.inl (congrArg Prod.fst (List.mem_singleton.mp member))
  | cons entry rest inductionHypothesis =>
    obtain ⟨other, count⟩ := entry
    rw [tally] at member
    split at member
    · exact (List.mem_cons.mp member).imp (congrArg Prod.fst) id
    · split at member
      · rename_i same
        exact (List.mem_cons.mp member).imp (fun first => (congrArg Prod.fst first).trans same.symm)
          (List.mem_cons_of_mem _)
      · rcases List.mem_cons.mp member with first | later
        · exact Or.inr (first ▸ List.mem_cons_self)
        · exact (inductionHypothesis later).imp id (List.mem_cons_of_mem _)

theorem ascending_tally (name : String) (carriers : Nat) {counts : List (String × Nat)}
    (ascending : Ascending Prod.fst counts) :
    Ascending Prod.fst (tally name carriers counts) := by
  induction counts with
  | nil => exact List.pairwise_singleton _ _
  | cons entry rest inductionHypothesis =>
    obtain ⟨other, count⟩ := entry
    rw [tally]
    split
    · rename_i below
      exact ascending.before below
    · split
      · refine ascending.instead ?_
        rfl
      · rename_i beyond differs
        exact ascending.behind beyond differs
          (inductionHypothesis (List.Pairwise.of_cons ascending)) fun _ => mem_of_mem_tally

theorem ascending_foldl_tally (carriers : Nat) (names : List String)
    {counts : List (String × Nat)} (ascending : Ascending Prod.fst counts) :
    Ascending Prod.fst (names.foldl (fun counts name => tally name carriers counts) counts) := by
  induction names generalizing counts with
  | nil => exact ascending
  | cons name rest inductionHypothesis =>
    exact inductionHypothesis (ascending_tally name carriers ascending)

/-- Counting brings in the name that is counted, and no other. -/
theorem mem_names_tally {name other : String} {carriers : Nat} {counts : List (String × Nat)} :
    other ∈ (tally name carriers counts).map Prod.fst ↔
      other = name ∨ other ∈ counts.map Prod.fst := by
  induction counts with
  | nil => exact List.mem_cons
  | cons entry rest inductionHypothesis =>
    obtain ⟨held, count⟩ := entry
    rw [tally]
    split
    · exact List.mem_cons
    · split
      · rename_i same
        rw [List.map_cons, List.map_cons, same, List.mem_cons, or_self_left]
      · rw [List.map_cons, List.mem_cons, inductionHypothesis, List.map_cons, List.mem_cons,
          or_left_comm]

theorem mem_names_foldl_tally {carriers : Nat} {names : List String} {other : String}
    {counts : List (String × Nat)} :
    other ∈ (names.foldl (fun counts name => tally name carriers counts) counts).map Prod.fst ↔
      other ∈ names ∨ other ∈ counts.map Prod.fst := by
  induction names generalizing counts with
  | nil => exact (or_iff_right List.not_mem_nil).symm
  | cons name rest inductionHypothesis =>
    rw [List.foldl_cons, inductionHypothesis, mem_names_tally, List.mem_cons, or_left_comm,
      or_assoc]

/-! ### The derived subscriptions -/

/-- The names of the derived subscriptions strictly ascend. -/
theorem ascending_gather (datacenter : String) (clients : List Client) (checks : List Check) :
    ((gather datacenter clients checks).map (·.name)).Pairwise (· < ·) := by
  unfold gather
  rw [List.map_map, List.pairwise_map]
  refine List.Pairwise.filter _ ?_
  exact ascending_foldl_tally 0 _ (ascending_foldl_tally 1 _ List.Pairwise.nil)

theorem name_ne_empty_of_mem_gather {datacenter : String} {clients : List Client}
    {checks : List Check} {subscription : Subscription}
    (member : subscription ∈ gather datacenter clients checks) : subscription.name ≠ "" := by
  obtain ⟨entry, kept, same⟩ := List.mem_map.mp member
  rw [← same]
  exact of_decide_eq_true (List.mem_filter.mp kept).2

/-- The names of the derived subscriptions are those that clients and checks carry, the one without
characters apart. -/
theorem mem_names_gather {datacenter name : String} {clients : List Client}
    {checks : List Check} :
    name ∈ (gather datacenter clients checks).map (·.name) ↔
      (name ∈ clients.flatMap (·.subscriptions) ∨ name ∈ checks.flatMap (·.subscribers)) ∧
        name ≠ "" := by
  have kept : ∀ counts : List (String × Nat), (name ∈ (counts.filter (·.1 ≠ "")).map Prod.fst ↔
      name ∈ counts.map Prod.fst ∧ name ≠ "") := by
    intro counts
    rw [List.mem_map, List.mem_map]
    constructor
    · rintro ⟨entry, held, rfl⟩
      obtain ⟨listed, named⟩ := List.mem_filter.mp held
      exact ⟨⟨entry, listed, rfl⟩, of_decide_eq_true named⟩
    · rintro ⟨⟨entry, listed, rfl⟩, named⟩
      exact ⟨entry, List.mem_filter.mpr ⟨listed, decide_eq_true named⟩, rfl⟩
  unfold gather
  rw [List.map_map]
  refine (kept _).trans (and_congr_left fun _ => ?_)
  rw [mem_names_foldl_tally, mem_names_foldl_tally, List.map_nil, or_iff_left List.not_mem_nil]
  exact Or.comm

theorem datacenter_eq_of_mem_gather {datacenter : String} {clients : List Client}
    {checks : List Check} {subscription : Subscription}
    (member : subscription ∈ gather datacenter clients checks) :
    subscription.datacenter = datacenter := by
  obtain ⟨entry, -, same⟩ := List.mem_map.mp member
  rw [← same]

/-- No two derived subscriptions share a name. -/
theorem nodup_names_gather (datacenter : String) (clients : List Client) (checks : List Check) :
    ((gather datacenter clients checks).map (·.name)).Nodup :=
  (ascending_gather datacenter clients checks).imp fun below => ne_of_lt below

end Subscription

end FleetView
