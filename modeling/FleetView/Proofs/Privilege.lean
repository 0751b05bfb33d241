/-
This file compares callers. A caller who may enter no more datacenters, is bound to
a narrower subscription scope if another one is bound at all, and may act only if the
other may, sees no more and has no more carried out. The rules look at a scope in both
ways: some let a caller through for sharing a name with what is there, others let a
caller through for having no scope. So the comparison has to be made for both.
-/

import FleetView.Proofs.Confinement

namespace FleetView

namespace Identity

/-- One caller may do at most what another one may: the scopes of the lesser caller are within
those of the greater one, where no subscription scope is the widest of all. -/
structure AtMost (lesser greater : Identity) : Prop where
  acting : greater.readonly = true → lesser.readonly = true
  entering : ∀ datacenter, lesser.datacenters.contains datacenter = true →
    greater.datacenters.contains datacenter = true
  sharing : ∀ allowed, greater.subscriptions = some allowed →
    ∃ fewer, lesser.subscriptions = some fewer ∧ fewer ⊆ allowed

namespace AtMost

variable {lesser greater : Identity}

theorem readonly_eq_false (atMost : lesser.AtMost greater) (acting : lesser.readonly = false) :
    greater.readonly = false := by
  rw [Bool.eq_false_iff]
  intro bound
  rw [atMost.acting bound] at acting
  cases acting

/-! ### What is seen -/

theorem mayEnter (atMost : lesser.AtMost greater) {datacenter : String}
    (enters : lesser.mayEnter datacenter = true) : greater.mayEnter datacenter = true := by
  rw [mayEnter_iff] at enters ⊢
  exact ⟨enters.1, atMost.entering datacenter enters.2⟩

theorem sees (atMost : lesser.AtMost greater) {datacenter : String} {tags : Option (List String)}
    (visible : lesser.sees datacenter tags = true) : greater.sees datacenter tags = true := by
  unfold Identity.sees at visible ⊢
  rw [Bool.and_eq_true] at visible ⊢
  refine ⟨atMost.mayEnter visible.1, ?_⟩
  -- Only a greater caller with a scope of its own can be stopped by what is carried.
  cases scope : greater.subscriptions with
  | none => rfl
  | some allowed =>
    obtain ⟨fewer, lesserScope, within⟩ := atMost.sharing allowed scope
    rw [lesserScope] at visible
    cases tags with
    | none => rfl
    | some carried =>
      obtain ⟨name, carries, shared⟩ := List.any_eq_true.mp visible.2
      exact List.any_eq_true.mpr
        ⟨name, carries, decide_eq_true (within (of_decide_eq_true shared))⟩

theorem maySee (atMost : lesser.AtMost greater) {subject : Subject}
    (visible : lesser.maySee subject = true) : greater.maySee subject = true :=
  atMost.sees visible

theorem mayActOn (atMost : lesser.AtMost greater) {subject : Subject}
    (acts : lesser.mayActOn subject = true) : greater.mayActOn subject = true := by
  rw [Identity.mayActOn, Bool.and_eq_true, Bool.not_eq_true'] at acts ⊢
  exact ⟨atMost.readonly_eq_false acts.1, atMost.maySee acts.2⟩

theorem filter_sublist (atMost : lesser.AtMost greater) (kind : Kind) (objects : List Object) :
    (lesser.filter kind objects).Sublist (greater.filter kind objects) := by
  refine List.monotone_filter_right objects fun object kept => ?_
  rw [Bool.and_eq_true] at kept ⊢
  exact kept.imp_right atMost.maySee

theorem visibleDatacenters_sublist (atMost : lesser.AtMost greater) (snapshot : Snapshot) :
    (snapshot.visibleDatacenters lesser).Sublist (snapshot.visibleDatacenters greater) :=
  List.monotone_filter_right _ fun _ => atMost.maySee

/-! ### What is carried out -/

/-- Every demand on the greater caller is met as soon as it is met by the lesser one: those that
bind only callers with a subscription scope bind the lesser one too. -/
theorem entitled (atMost : lesser.AtMost greater) {snapshot : Snapshot} {command : Command}
    (entitled : lesser.Entitled snapshot command) : greater.Entitled snapshot command where
  acting := atMost.readonly_eq_false entitled.acting
  entering := ⟨entitled.entering.1, atMost.entering _ entitled.entering.2⟩
  target := fun object there => atMost.mayActOn (entitled.target object there)
  silence := fun request asked => atMost.maySee (entitled.silence request asked)
  client := fun request asked => atMost.maySee (entitled.client request asked)
  known := by
    intro limited acts
    obtain ⟨allowed, scope⟩ := Option.isSome_iff_exists.mp limited
    obtain ⟨fewer, lesserScope, -⟩ := atMost.sharing allowed scope
    exact entitled.known (lesserScope ▸ rfl) acts
  audience := by
    intro allowed scope request runs check there name addressed
    obtain ⟨fewer, lesserScope, within⟩ := atMost.sharing allowed scope
    exact within (entitled.audience fewer lesserScope request runs check there name addressed)

end AtMost

end Identity

namespace Dashboard

variable {setup : Setup} {dashboard : Dashboard} {lesser greater : Identity}

/-- A caller with more rights sees all that one with less sees, in the same order, may act on all
that the other may act on, and has relayed every command that the other has relayed, however the
datacenter may answer. -/
theorem rights_mono (reached : Reachable setup dashboard) (atMost : lesser.AtMost greater) :
    (∀ subject, lesser.maySee subject = true → greater.maySee subject = true) ∧
    (∀ subject, lesser.mayActOn subject = true → greater.mayActOn subject = true) ∧
    (∀ kind objects, (lesser.filter kind objects).Sublist (greater.filter kind objects)) ∧
    (dashboard.snapshot.visibleDatacenters lesser).Sublist
      (dashboard.snapshot.visibleDatacenters greater) ∧
    (∀ command network other, dashboard.Relays lesser command network →
      dashboard.Relays greater command other) := by
  refine ⟨fun _ => atMost.maySee, fun _ => atMost.mayActOn, atMost.filter_sublist,
    atMost.visibleDatacenters_sublist _, fun command network other relays => ?_⟩
  have admits := (reached.relays_iff lesser command network).mp relays
  exact (reached.relays_iff greater command other).mpr
    ⟨admits.valid, atMost.entitled admits.entitled, admits.configured⟩

end Dashboard

namespace Sample

/-- A caller without a subscription scope. -/
def overseer : Identity := ⟨some "erin", none, .all, none, false⟩

theorem operator_atMost_overseer (subscription : String) :
    (operator subscription).AtMost overseer :=
  ⟨nofun, fun _ _ => rfl, nofun⟩

end Sample

/-- A silence that a poll has found is cleared for an operator of its scope, and so it is for a
caller without a scope, even where nobody answers. -/
theorem Dashboard.rights_mono_clearing :
    Reachable Sample.setup (Sample.polled Sample.oneSilence) ∧
      (Sample.operator "windows").AtMost Sample.overseer ∧
      (Sample.polled Sample.oneSilence).snapshot.get? .silence "east" "windows:*" =
        some Sample.windowsSilence ∧
      (Sample.polled Sample.oneSilence).Relays (Sample.operator "windows") Sample.clearing
        (fun _ => .reply 200 []) ∧
      (Sample.polled Sample.oneSilence).Relays Sample.overseer Sample.clearing
        fun _ => .silence true := by
  have reached := Sample.reachable_polled Sample.oneSilence
  have atMost := Sample.operator_atMost_overseer "windows"
  have relays := (reached.relays_iff (Sample.operator "windows") Sample.clearing
    fun _ => .reply 200 []).mpr Sample.admits_clearing
  have held : (Sample.polled Sample.oneSilence).snapshot.get? .silence "east" "windows:*" =
      some Sample.windowsSilence := by
    rw [Sample.snapshot_polled_oneSilence]
    decide +kernel
  exact ⟨reached, atMost, held, relays, (rights_mono reached atMost).2.2.2.2 _ _ _ relays⟩

end FleetView
