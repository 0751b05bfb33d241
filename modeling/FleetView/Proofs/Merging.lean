/-
This file is about layers of maps, one above the other. What is seen under a name when two
maps are merged is what the upper one has there, merged with what the lower one has; where
only one of them has anything, that is seen as it is. So merging can be followed name by
name, and inside of a part of both maps by names in that part, as long as the part is a map
in both. Maps are kept in the order of their names throughout.
-/

import FleetView.Config.Layers
import FleetView.Proofs.Reports
import FleetView.Proofs.Values

namespace FleetView

namespace Json

/-- What is seen of two values, either of which may be missing, when one lies above the other. -/
def seen (lower upper : Option Json) : Option Json :=
  match lower, upper with
  | lower, none => lower
  | none, some upper => some upper
  | some lower, some upper => some (lower.merge upper)

theorem seen_none (lower : Option Json) : seen lower none = lower := by
  cases lower <;> rfl

theorem none_seen (upper : Option Json) : seen none upper = upper := by
  cases upper <;> rfl

/-- A value that is no map. -/
def Flat : Json → Prop
  | .object _ => False
  | _ => True

/-- Only maps are merged; anything else hides what lies below it. -/
theorem Flat.merge {upper : Json} (flat : upper.Flat) (lower : Json) :
    lower.merge upper = upper := by
  cases upper with
  | object members => exact flat.elim
  | null | bool | number | string | array => rw [Json.merge]; exact nofun

theorem Flat.tidy {value : Json} (flat : value.Flat) : value.tidy.Flat := by
  cases value with
  | object members => exact flat.elim
  | null | bool | number | string | array => trivial

theorem seen_of_flat {upper : Option Json} (flat : ∀ value, upper = some value → value.Flat)
    (lower : Option Json) : seen lower upper = upper.or lower := by
  cases upper with
  | none => exact (seen_none lower).trans Option.none_or.symm
  | some upper =>
    cases lower with
    | none => rfl
    | some lower => exact congrArg some ((flat upper rfl).merge lower)

/-! ### Members of merged maps -/

theorem get?_mergeMembers {below above : Bag} (different : (above.map Prod.fst).Nodup)
    (asked : String) :
    (mergeMembers below above).get? asked = seen (below.get? asked) (above.get? asked) := by
  -- Every member changes what the ones behind it are put above, so that may be anything.
  induction above generalizing below with
  | nil =>
    rw [mergeMembers]
    exact (seen_none _).symm
  | cons member rest inductionHypothesis =>
    obtain ⟨name, upper⟩ := member
    obtain ⟨once, others⟩ := List.nodup_cons.mp different
    rw [mergeMembers, inductionHypothesis others, Bag.get?_insert, Bag.get?_cons]
    by_cases same : name = asked
    · subst same
      rw [if_pos rfl, if_pos rfl, Bag.get?_eq_none once, seen_none]
      cases below.get? name <;> rfl
    · rw [if_neg same, if_neg same]

theorem ascending_mergeMembers {below : Bag} (ascending : Ascending Prod.fst below)
    (above : List (String × Json)) : Ascending Prod.fst (mergeMembers below above) := by
  induction above generalizing below with
  | nil =>
    rw [mergeMembers]
    exact ascending
  | cons member rest inductionHypothesis =>
    rw [mergeMembers]
    exact inductionHypothesis (Bag.ascending_insert _ _ ascending)

/-! ### Maps in order -/

/-- A map whose names ascend. -/
def Ordered (value : Json) : Prop := ∃ bag, value = .object bag ∧ Ascending Prod.fst bag

namespace Ordered

variable {lower upper value : Json}

theorem merge (lowerOrdered : lower.Ordered) (upperOrdered : upper.Ordered) :
    (lower.merge upper).Ordered := by
  obtain ⟨below, rfl, ascending⟩ := lowerOrdered
  obtain ⟨above, rfl, -⟩ := upperOrdered
  rw [Json.merge]
  exact ⟨_, rfl, ascending_mergeMembers ascending above⟩

theorem field?_merge (lowerOrdered : lower.Ordered) (upperOrdered : upper.Ordered)
    (name : String) :
    (lower.merge upper).field? name = seen (lower.field? name) (upper.field? name) := by
  obtain ⟨below, rfl, -⟩ := lowerOrdered
  obtain ⟨above, rfl, ascending⟩ := upperOrdered
  rw [Json.merge]
  exact get?_mergeMembers ((List.pairwise_map.mpr ascending).imp ne_of_lt) name

theorem tidy (ordered : value.Ordered) : value.tidy.Ordered := by
  obtain ⟨bag, rfl, -⟩ := ordered
  exact ⟨_, by rw [Json.tidy], Bag.ascending_ofMembers _⟩

theorem field?_tidy (ordered : value.Ordered) (name : String) :
    value.tidy.field? name = (value.field? name).map Json.tidy := by
  obtain ⟨bag, rfl, ascending⟩ := ordered
  have kept : Ascending Prod.fst (tidyMembers bag) := by
    rw [tidyMembers_eq_map]
    exact List.pairwise_map.mpr ascending
  rw [Json.tidy, Bag.ofMembers_eq_self kept, tidyMembers_eq_map]
  show Bag.get? _ name = (Bag.get? bag name).map Json.tidy
  rw [Bag.get?, Bag.get?, List.find?_map, Option.map_map, Option.map_map]
  rfl

end Ordered

theorem ordered_of_tidy_eq {value : Json} {bag : Bag} (same : value.tidy = .object bag) :
    (Json.object bag).Ordered := by
  cases value with
  | object members => exact same ▸ ⟨_, by rw [Json.tidy], Bag.ascending_ofMembers _⟩
  | null | bool | number | string | array => cases same

/-! ### A part of a map -/

theorem under?_pair (value : Json) (part name : String) :
    value.under? [part, name] = (value.field? part).bind (·.field? name) := by
  show (value.field? part >>= fun inner => inner.field? name >>= pure) = _
  simp only [bind_pure]
  rfl

/-- A map in order, in which a part, if it is there, is a map in order as well. -/
structure Layer (value : Json) (part : String) : Prop where
  ordered : value.Ordered
  inner : ∀ inner, value.field? part = some inner → inner.Ordered

namespace Layer

variable {lower upper value : Json} {part : String}

theorem merge (lowerLayer : lower.Layer part) (upperLayer : upper.Layer part) :
    (lower.merge upper).Layer part := by
  refine ⟨lowerLayer.ordered.merge upperLayer.ordered, fun inner found => ?_⟩
  rw [lowerLayer.ordered.field?_merge upperLayer.ordered] at found
  cases below : lower.field? part with
  | none =>
    rw [below, none_seen] at found
    exact upperLayer.inner inner found
  | some under =>
    cases above : upper.field? part with
    | none =>
      rw [above, seen_none, below] at found
      exact Option.some.inj found ▸ lowerLayer.inner under below
    | some upon =>
      rw [below, above] at found
      exact Option.some.inj found ▸
        (lowerLayer.inner under below).merge (upperLayer.inner upon above)

/-- Inside of the part, too, what is seen is what the upper map has above what the lower one has. -/
theorem under?_merge (lowerLayer : lower.Layer part) (upperLayer : upper.Layer part)
    (name : String) :
    (lower.merge upper).under? [part, name] =
      seen (lower.under? [part, name]) (upper.under? [part, name]) := by
  rw [under?_pair, under?_pair, under?_pair,
    lowerLayer.ordered.field?_merge upperLayer.ordered]
  cases below : lower.field? part with
  | none => rw [none_seen, Option.bind_none, none_seen]
  | some under =>
    cases above : upper.field? part with
    | none => rw [seen_none, Option.bind_none, seen_none]
    | some upon =>
      exact (lowerLayer.inner under below).field?_merge (upperLayer.inner upon above) name

theorem tidy (layer : value.Layer part) : value.tidy.Layer part := by
  refine ⟨layer.ordered.tidy, fun inner found => ?_⟩
  rw [layer.ordered.field?_tidy] at found
  obtain ⟨untidy, there, rfl⟩ := Option.map_eq_some_iff.mp found
  exact (layer.inner untidy there).tidy

theorem under?_tidy (layer : value.Layer part) (name : String) :
    value.tidy.under? [part, name] = (value.under? [part, name]).map Json.tidy := by
  rw [under?_pair, under?_pair, layer.ordered.field?_tidy]
  cases found : value.field? part with
  | none => rfl
  | some inner => exact (layer.inner inner found).field?_tidy name

end Layer

end Json

end FleetView
