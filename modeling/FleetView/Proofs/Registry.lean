/-
This file reads off what a registry without flaws is made of. The datacenters are
checked one after the other against the names met before; here the outcome is
said of the list as a whole: every name shows something, no name comes twice,
and every address is one of the web. The same is said of the roles, none of which
speaks of a datacenter that is not there.
-/

import Mathlib
import FleetView.Registry

namespace FleetView

namespace Registry

/-- What an entry of a datacenter has to satisfy by itself. -/
def Usable (datacenter : Datacenter) : Prop :=
  ¬ Text.Blank datacenter.name ∧ (datacenter.url.scheme = "http" ∨ datacenter.url.scheme = "https")

/-- No datacenter has a flaw exactly when each one is usable and the names are new and
distinct. -/
theorem datacenterFlaw?_eq_none_iff (seen : List String) (datacenters : List Datacenter) :
    datacenterFlaw? seen datacenters = none ↔
      (∀ datacenter ∈ datacenters, Usable datacenter ∧ datacenter.name ∉ seen) ∧
        (datacenters.map (·.name)).Nodup := by
  induction datacenters generalizing seen with
  | nil => exact ⟨fun _ => ⟨fun _ member => absurd member List.not_mem_nil, List.nodup_nil⟩,
      fun _ => rfl⟩
  | cons head rest inductionHypothesis =>
    rw [datacenterFlaw?, List.forall_mem_cons, List.map_cons, List.nodup_cons]
    by_cases blank : Text.Blank head.name
    · rw [if_pos blank]
      exact ⟨fun clash => absurd clash (Option.some_ne_none _),
        fun found => absurd blank found.1.1.1.1⟩
    · by_cases again : head.name ∈ seen
      · rw [if_neg blank, if_pos again]
        exact ⟨fun clash => absurd clash (Option.some_ne_none _),
          fun found => absurd again found.1.1.2⟩
      · by_cases strange : head.url.scheme ≠ "http" ∧ head.url.scheme ≠ "https"
        · rw [if_neg blank, if_neg again, if_pos strange]
          exact ⟨fun clash => absurd clash (Option.some_ne_none _),
            fun found => found.1.1.1.2.elim (absurd · strange.1) (absurd · strange.2)⟩
        · have web : head.url.scheme = "http" ∨ head.url.scheme = "https" := by
            rwa [not_and_or, not_not, not_not] at strange
          rw [if_neg blank, if_neg again, if_neg strange, inductionHypothesis]
          constructor
          · rintro ⟨usable, distinct⟩
            refine ⟨⟨⟨⟨blank, web⟩, again⟩, fun datacenter member => ?_⟩, fun twice => ?_,
              distinct⟩
            · obtain ⟨fine, fresh⟩ := usable datacenter member
              exact ⟨fine, fun old => fresh (List.mem_cons_of_mem _ old)⟩
            · obtain ⟨datacenter, member, same⟩ := List.mem_map.mp twice
              exact (usable datacenter member).2 (same ▸ List.mem_cons_self)
          · rintro ⟨⟨-, usable⟩, once, distinct⟩
            refine ⟨fun datacenter member => ⟨(usable datacenter member).1, fun old => ?_⟩,
              distinct⟩
            rcases List.mem_cons.mp old with same | older
            · exact once (same ▸ List.mem_map_of_mem member)
            · exact (usable datacenter member).2 older

/-- A registry can be made exactly of entries where there is a datacenter, and neither the
datacenters nor the roles have a flaw. -/
theorem flaw?_eq_none_iff {datacenters : List Datacenter} {roles : List Role} :
    flaw? datacenters roles = none ↔
      datacenters ≠ [] ∧ datacenterFlaw? [] datacenters = none ∧
        roleFlaw? (datacenters.map (·.name)) [] roles = none := by
  unfold flaw?
  by_cases missing : datacenters = []
  · rw [if_pos missing]
    exact iff_of_false nofun fun found => found.1 missing
  · rw [if_neg missing, Option.or_eq_none_iff, and_iff_right missing]

theorem datacenterFlaw?_datacenters (registry : Registry) :
    datacenterFlaw? [] registry.datacenters = none :=
  (flaw?_eq_none_iff.mp registry.flawless).2.1

/-- No two datacenters of a registry share a name. -/
theorem nodup_names (registry : Registry) : registry.names.Nodup :=
  ((datacenterFlaw?_eq_none_iff [] registry.datacenters).mp
    registry.datacenterFlaw?_datacenters).2

theorem usable_of_mem (registry : Registry) {datacenter : Datacenter}
    (member : datacenter ∈ registry.datacenters) : Usable datacenter :=
  (((datacenterFlaw?_eq_none_iff [] registry.datacenters).mp
    registry.datacenterFlaw?_datacenters).1 datacenter member).1

/-! ### Roles -/

/-- No role has a flaw exactly when none speaks of a stranger and the names are new and distinct. -/
theorem roleFlaw?_eq_none_iff (known seen : List String) (roles : List Role) :
    roleFlaw? known seen roles = none ↔
      (∀ role ∈ roles, strangerIn? known role.datacenters = none ∧ role.name ∉ seen) ∧
        (roles.map (·.name)).Nodup := by
  induction roles generalizing seen with
  | nil => exact ⟨fun _ => ⟨fun _ member => absurd member List.not_mem_nil, List.nodup_nil⟩,
      fun _ => rfl⟩
  | cons head rest inductionHypothesis =>
    rw [roleFlaw?, List.forall_mem_cons, List.map_cons, List.nodup_cons]
    by_cases again : head.name ∈ seen
    · rw [if_pos again]
      exact iff_of_false (Option.some_ne_none _) fun found => found.1.1.2 again
    · rw [if_neg again]
      cases strange : strangerIn? known head.datacenters with
      | some stranger =>
        exact iff_of_false (Option.some_ne_none _) fun found => Option.some_ne_none _ found.1.1.1
      | none =>
        dsimp only
        rw [inductionHypothesis]
        constructor
        · rintro ⟨apart, distinct⟩
          refine ⟨⟨⟨rfl, again⟩, fun role member => ?_⟩, fun twice => ?_, distinct⟩
          · exact (apart role member).imp_right fun fresh old => fresh (List.mem_cons_of_mem _ old)
          · obtain ⟨role, member, same⟩ := List.mem_map.mp twice
            exact (apart role member).2 (same ▸ List.mem_cons_self)
        · rintro ⟨⟨-, apart⟩, once, distinct⟩
          refine ⟨fun role member => (apart role member).imp_right fun fresh old => ?_, distinct⟩
          rcases List.mem_cons.mp old with same | older
          · exact once (same ▸ List.mem_map_of_mem member)
          · exact fresh older

/-- A scope has no stranger exactly when each datacenter that it names is known. -/
theorem strangerIn?_eq_none_iff {known : List String} {scope : Scope} :
    strangerIn? known scope = none ↔ ∀ names, scope = .only names → ∀ name ∈ names, name ∈ known := by
  cases scope with
  | all => exact iff_of_true rfl nofun
  | only names => simp [strangerIn?]

theorem roleFlaw?_roles (registry : Registry) :
    roleFlaw? registry.names [] registry.roles = none :=
  (flaw?_eq_none_iff.mp registry.flawless).2.2

/-- No two roles of a registry share a name. -/
theorem nodup_roles (registry : Registry) : (registry.roles.map (·.name)).Nodup :=
  ((roleFlaw?_eq_none_iff _ _ _).mp registry.roleFlaw?_roles).2

/-- The empty name belongs to no datacenter. -/
theorem name_ne_empty (registry : Registry) {name : String} (member : name ∈ registry.names) :
    name ≠ "" := by
  obtain ⟨datacenter, listed, same⟩ := List.mem_map.mp member
  rintro rfl
  refine (registry.usable_of_mem listed).1 ?_
  rw [same]
  decide

end Registry

end FleetView
