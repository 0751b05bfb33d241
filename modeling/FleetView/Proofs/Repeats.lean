/-
This file says what is left of a list once the items that repeat an earlier key
are gone. Reports are thinned out by one pass that keeps a list of the keys it
has met; here the outcome of that pass is described without the list: an item
stays exactly when no item before it has its key. Nothing else is lost, nothing
changes its place, and no two items that stay share a key.
-/

import Mathlib
import FleetView.Store.Collections

namespace FleetView

/-- The items whose key no earlier item has, in their order. -/
def withoutRepeats {α : Type} (key : α → String) (items : List α) : List α :=
  (items.zipIdx.filter fun entry =>
    decide (key entry.1 ∉ (items.take entry.2).map key)).map Prod.fst

/-! ### The pass keeps the first item of each key -/

/-- The pass, begun behind some items whose keys it has met, keeps exactly the items that
repeat the key of no item before them. The items before are those the pass has left behind and
those it has walked since. -/
theorem keepFirst_eq_filter {α : Type} (key : α → String) (items before : List α)
    (seen : List String) (met : ∀ name, name ∈ seen ↔ name ∈ before.map key) :
    keepFirst key seen items =
      ((items.zipIdx before.length).filter fun entry =>
        decide (key entry.1 ∉ ((before ++ items).take entry.2).map key)).map Prod.fst := by
  induction items generalizing before seen with
  | nil => rfl
  | cons item rest inductionHypothesis =>
    have walked : (before ++ item :: rest).take before.length = before := List.take_left
    have regroup : before ++ item :: rest = (before ++ [item]) ++ rest := by
      rw [List.append_assoc, List.singleton_append]
    have further : before.length + 1 = (before ++ [item]).length := by
      rw [List.length_append, List.length_singleton]
    rw [keepFirst, List.zipIdx_cons]
    by_cases again : key item ∈ seen
    · have grown : ∀ name, name ∈ seen ↔ name ∈ (before ++ [item]).map key := by
        intro name
        rw [met, List.map_append, List.mem_append, List.map_singleton, List.mem_singleton]
        refine ⟨Or.inl, fun found => found.elim id fun same => ?_⟩
        rw [same]
        exact (met _).mp again
      rw [if_pos again, List.filter_cons_of_neg, inductionHypothesis (before ++ [item]) seen grown,
        further, regroup]
      rw [walked, decide_eq_true_eq, not_not]
      exact (met _).mp again
    · have grown : ∀ name, name ∈ key item :: seen ↔ name ∈ (before ++ [item]).map key := by
        intro name
        rw [List.mem_cons, met, List.map_append, List.mem_append, List.map_singleton,
          List.mem_singleton, or_comm]
      rw [if_neg again, List.filter_cons_of_pos, List.map_cons,
        inductionHypothesis (before ++ [item]) (key item :: seen) grown, further, regroup]
      rw [walked, decide_eq_true_eq]
      exact fun repeated => again ((met _).mpr repeated)

theorem keepFirst_eq_withoutRepeats {α : Type} (key : α → String) (items : List α) :
    keepFirst key [] items = withoutRepeats key items :=
  keepFirst_eq_filter key items [] [] fun _ => Iff.rfl

/-! ### What stays -/

theorem mem_of_mem_keepFirst {α : Type} {key : α → String} {seen : List String} {items : List α}
    {item : α} (member : item ∈ keepFirst key seen items) : item ∈ items := by
  induction items generalizing seen with
  | nil => exact member
  | cons head rest inductionHypothesis =>
    rw [keepFirst] at member
    split at member
    · exact List.mem_cons_of_mem _ (inductionHypothesis member)
    · rcases List.mem_cons.mp member with same | later
      · exact same ▸ List.mem_cons_self
      · exact List.mem_cons_of_mem _ (inductionHypothesis later)

/-- A key that has been met does not come back. -/
theorem key_not_mem_of_mem_keepFirst {α : Type} {key : α → String} {seen : List String}
    {items : List α} {item : α} (member : item ∈ keepFirst key seen items) : key item ∉ seen := by
  induction items generalizing seen with
  | nil => cases member
  | cons head rest inductionHypothesis =>
    rw [keepFirst] at member
    split at member
    · exact inductionHypothesis member
    · rename_i fresh
      rcases List.mem_cons.mp member with same | later
      · exact same ▸ fresh
      · exact fun old => inductionHypothesis later (List.mem_cons_of_mem _ old)

/-- No two items that stay share a key. -/
theorem nodup_keys_keepFirst {α : Type} (key : α → String) (seen : List String) (items : List α) :
    ((keepFirst key seen items).map key).Nodup := by
  induction items generalizing seen with
  | nil => exact List.nodup_nil
  | cons head rest inductionHypothesis =>
    rw [keepFirst]
    split
    · exact inductionHypothesis seen
    · rw [List.map_cons, List.nodup_cons]
      refine ⟨fun again => ?_, inductionHypothesis _⟩
      obtain ⟨item, member, same⟩ := List.mem_map.mp again
      exact key_not_mem_of_mem_keepFirst member (same ▸ List.mem_cons_self)

/-- No key is lost: those that stay are the ones there are, less those met before. -/
theorem mem_keys_keepFirst {α : Type} {key : α → String} {seen : List String} {items : List α}
    {name : String} :
    name ∈ (keepFirst key seen items).map key ↔ name ∈ items.map key ∧ name ∉ seen := by
  induction items generalizing seen with
  | nil => exact (and_iff_left_of_imp fun member => absurd member List.not_mem_nil).symm
  | cons head rest inductionHypothesis =>
    rw [keepFirst, List.map_cons, List.mem_cons, or_and_right]
    split
    · rename_i old
      have never : ¬ (name = key head ∧ name ∉ seen) := fun ⟨same, fresh⟩ => fresh (same ▸ old)
      rw [inductionHypothesis, iff_false_intro never, false_or]
    · rename_i fresh
      rw [List.map_cons, List.mem_cons, inductionHypothesis, List.mem_cons, not_or]
      by_cases first : name = key head
      · exact iff_of_true (Or.inl first) (Or.inl ⟨first, first ▸ fresh⟩)
      · rw [and_iff_right first, or_iff_right first, or_iff_right fun both => first both.1]

/-- Where items are made of others, the others can be thinned out first. -/
theorem keepFirst_map {α β : Type} (key : β → String) (make : α → β) (seen : List String)
    (items : List α) :
    keepFirst key seen (items.map make) =
      (keepFirst (fun item => key (make item)) seen items).map make := by
  induction items generalizing seen with
  | nil => rfl
  | cons head rest inductionHypothesis =>
    rw [List.map_cons, keepFirst, keepFirst]
    split
    · exact inductionHypothesis seen
    · rw [inductionHypothesis, List.map_cons]

/-! ### Looking up where no key comes twice -/

/-- Where no two items share a key, the first item with a key is the only one. -/
theorem find?_eq_some_iff_of_nodup {α : Type} {key : α → String} {items : List α}
    (distinct : (items.map key).Nodup) {name : String} {item : α} :
    (items.find? fun item => decide (key item = name)) = some item ↔
      item ∈ items ∧ key item = name := by
  constructor
  · intro found
    exact ⟨List.mem_of_find?_eq_some found, by simpa using List.find?_some found⟩
  · rintro ⟨member, same⟩
    cases found : items.find? fun item => decide (key item = name) with
    | none => exact absurd (decide_eq_true same) (List.find?_eq_none.mp found item member)
    | some other =>
      have otherSame : key other = name := by simpa using List.find?_some found
      rw [List.inj_on_of_nodup_map distinct (List.mem_of_find?_eq_some found) member
        (otherSame.trans same.symm)]

end FleetView
