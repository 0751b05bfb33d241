/-
This file is about lists in the strict order of a key, as the library builds them by
putting one item after the other in its place. Where an item is put into such a list
it comes before the first item, takes its place, or goes somewhere behind it, and in
each case the list stays in order. So for every function that puts items in place it
is enough to know which items its result has.
-/

import Mathlib

namespace FleetView

/-- Items in the strict order of a key. -/
def Ascending {Item : Type} (key : Item → String) (items : List Item) : Prop :=
  items.Pairwise fun one other => key one < key other

namespace Ascending

variable {Item : Type} {key : Item → String} {item first : Item} {rest placed : List Item}

/-- An item below the first one may come before it. -/
theorem before (below : key item < key first) (ascending : Ascending key (first :: rest)) :
    Ascending key (item :: first :: rest) := by
  refine List.pairwise_cons.mpr ⟨fun found member => ?_, ascending⟩
  rcases List.mem_cons.mp member with same | later
  · exact same ▸ below
  · exact lt_trans below ((List.pairwise_cons.mp ascending).1 found later)

/-- An item with the key of the first one may take its place. -/
theorem instead (same : key item = key first) (ascending : Ascending key (first :: rest)) :
    Ascending key (item :: rest) := by
  obtain ⟨above, restAscending⟩ := List.pairwise_cons.mp ascending
  exact List.pairwise_cons.mpr ⟨fun found member => same ▸ above found member, restAscending⟩

/-- An item whose name is beyond the first one may be placed anywhere behind it. -/
theorem behind {name : String} (beyond : ¬ name < key first) (other : ¬ name = key first)
    (ascending : Ascending key (first :: rest)) (placedAscending : Ascending key placed)
    (members : ∀ found ∈ placed, key found = name ∨ found ∈ rest) :
    Ascending key (first :: placed) := by
  refine List.pairwise_cons.mpr ⟨fun found member => ?_, placedAscending⟩
  rcases members found member with new | old
  · exact new ▸ lt_of_le_of_ne (not_lt.mp beyond) (Ne.symm other)
  · exact (List.pairwise_cons.mp ascending).1 found old

end Ascending

end FleetView
