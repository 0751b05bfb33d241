/-
This file says what a caller learns from commands about objects out of sight. Two
dashboards that show a caller the same may differ in what they hide. A command that
finds a hidden target is refused as if there were none; but three actions go through
where there is none, so for these the refusal gives the hidden object away. For all
others, and for callers that may not act there anyway, the two dashboards answer
alike.
-/

import FleetView.Proofs.Confinement

namespace FleetView

namespace Snapshot

/-- No two objects are held as the target of one command. -/
theorem Sound.eq_of_holdsTarget {snapshot : Snapshot} (sound : snapshot.Sound) {command : Command}
    {one other : Object} (oneThere : snapshot.HoldsTarget command one)
    (otherThere : snapshot.HoldsTarget command other) : one = other := by
  have found := sound.get?_eq_some_iff.mpr oneThere
  rw [sound.get?_eq_some_iff.mpr otherThere] at found
  exact (Option.some.inj found).symm

end Snapshot

/-- The actions that a caller with a subscription scope may take without knowing their target,
although the target is one that subscriptions are compared for. -/
def Action.Unguarded : Action → Prop
  | .createSilence _ | .clearSilence _ | .updateClient _ => True
  | _ => False

theorem Action.unguarded_iff {action : Action} :
    action.Unguarded ↔ ¬ action.ActsOnKnown ∧ action.targetKind ≠ .aggregate ∧
      action.targetKind ≠ .stash := by
  cases action <;> simp [Unguarded, ActsOnKnown, targetKind]

/-- Subscriptions are compared for all kinds but two. -/
theorem Object.kind_of_tags {object : Object} (tagged : object.tags ≠ none) :
    object.kind ≠ .aggregate ∧ object.kind ≠ .stash := by
  cases object <;> simp [tags, kind] at tagged ⊢

/-- What makes a command of a caller go through where its target is not there, and fail where it is
there and hidden. -/
structure Identity.Reveals (identity : Identity) (policy : Policy) (command : Command) :
    Prop where
  valid : command.validate policy = .ok ()
  acting : identity.readonly = false
  entering : command.datacenter ≠ "" ∧ identity.datacenters.contains command.datacenter = true
  unguarded : command.action.Unguarded
  silence : ∀ request, command.action = .createSilence request →
    identity.maySee (.object (.silence (request.preview command.datacenter))) = true
  client : ∀ request, command.action = .updateClient request →
    identity.maySee (.object (.client (request.preview command.datacenter))) = true

namespace Identity

variable {identity : Identity} {snapshot other : Snapshot} {command : Command}

/-- Whether a caller is entitled depends on the target alone. -/
theorem Entitled.congr (entitled : identity.Entitled snapshot command)
    (same : ∀ object, snapshot.HoldsTarget command object ↔ other.HoldsTarget command object) :
    identity.Entitled other command where
  acting := entitled.acting
  entering := entitled.entering
  target := fun object there => entitled.target object ((same object).mpr there)
  silence := entitled.silence
  client := entitled.client
  known := fun limited acts =>
    (entitled.known limited acts).imp fun object there => (same object).mp there
  audience := fun allowed scope request runs check there =>
    entitled.audience allowed scope request runs check ((same _).mpr there)

/-- What a caller who may enter a datacenter does not see there is out of the subscription
scope. -/
theorem limited_of_hidden {object : Object}
    (entering : object.datacenter ≠ "" ∧ identity.datacenters.contains object.datacenter = true)
    (hidden : identity.maySee (.object object) = false) :
    identity.subscriptions.isSome = true ∧ object.tags ≠ none := by
  have enters := mayEnter_iff.mpr entering
  unfold maySee sees at hidden
  rw [Subject.owner, enters, Bool.true_and] at hidden
  split at hidden
  · rename_i allowed carried scope tagged
    refine ⟨by rw [scope]; rfl, fun none => ?_⟩
    rw [Subject.tags, none] at tagged
    cases tagged
  · cases hidden

end Identity

namespace Dashboard

/-- Two dashboards in which a caller sees the same objects. -/
def ShowAlike (identity : Identity) (one other : Dashboard) : Prop :=
  ∀ kind object, identity.maySee (.object object) = true →
    (object ∈ one.snapshot.list kind ↔ object ∈ other.snapshot.list kind)

/-- Whether the target of a command is there and out of the caller's sight. -/
def Hides (dashboard : Dashboard) (identity : Identity) (command : Command) : Prop :=
  ∃ object, dashboard.snapshot.HoldsTarget command object ∧
    identity.maySee (.object object) = false

variable {setup : Setup} {one other : Dashboard} {identity : Identity} {command : Command}

theorem ShowAlike.symm (alike : ShowAlike identity one other) : ShowAlike identity other one :=
  fun kind object visible => (alike kind object visible).symm

theorem Hides.not_entitled (hides : one.Hides identity command) :
    ¬ identity.Entitled one.snapshot command := by
  obtain ⟨object, there, hidden⟩ := hides
  intro entitled
  have allowed := entitled.target object there
  rw [Identity.mayActOn_of_acting entitled.acting, hidden] at allowed
  cases allowed

theorem maySee_of_not_hides (shown : ¬ one.Hides identity command) {object : Object}
    (there : one.snapshot.HoldsTarget command object) :
    identity.maySee (.object object) = true := by
  rw [← Bool.not_eq_false]
  exact fun hidden => shown ⟨object, there, hidden⟩

/-! ### Where the target is hidden in both or in neither -/

theorem ShowAlike.holdsTarget (alike : ShowAlike identity one other)
    (shown : ¬ one.Hides identity command) {object : Object}
    (there : one.snapshot.HoldsTarget command object) :
    other.snapshot.HoldsTarget command object :=
  ⟨(alike _ object (maySee_of_not_hides shown there)).mp there.1, there.2⟩

theorem ShowAlike.entitled_iff (alike : ShowAlike identity one other)
    (same : one.Hides identity command ↔ other.Hides identity command) :
    identity.Entitled one.snapshot command ↔ identity.Entitled other.snapshot command := by
  by_cases hides : one.Hides identity command
  · exact iff_of_false hides.not_entitled (same.mp hides).not_entitled
  · have shown : ¬ other.Hides identity command := fun hidden => hides (same.mpr hidden)
    have held : ∀ object, one.snapshot.HoldsTarget command object ↔
        other.snapshot.HoldsTarget command object := fun object =>
      ⟨alike.holdsTarget hides, alike.symm.holdsTarget shown⟩
    exact ⟨fun entitled => entitled.congr held,
      fun entitled => entitled.congr fun object => (held object).symm⟩

/-- A dashboard looks at its snapshot only to see whether the caller is entitled. -/
theorem execute_congr (oneReached : Reachable setup one) (otherReached : Reachable setup other)
    (same : identity.Entitled one.snapshot command ↔ identity.Entitled other.snapshot command)
    (network : Network) :
    one.execute identity command network = other.execute identity command network := by
  have access : identity.mayExecute one.snapshot command =
      identity.mayExecute other.snapshot command := by
    rw [Bool.eq_iff_iff, Identity.mayExecute_iff oneReached.sound,
      Identity.mayExecute_iff otherReached.sound, same]
  rw [execute, execute, oneReached.setup_eq, oneReached.backends_eq, otherReached.setup_eq,
    otherReached.backends_eq, Command.execute, Command.execute, access]

/-! ### Where the target is hidden in one and not in the other -/

/-- A target that is hidden in one of two dashboards, and not hidden in the other, is not there in
the other. -/
theorem ShowAlike.absent (alike : ShowAlike identity one other) (oneReached : Reachable setup one)
    (hides : one.Hides identity command) (shown : ¬ other.Hides identity command)
    (object : Object) : ¬ other.snapshot.HoldsTarget command object := by
  intro there
  obtain ⟨twin, twinThere, hidden⟩ := hides
  have visible := maySee_of_not_hides shown there
  -- What is in sight would be in both snapshots, but the hidden twin has its place in the first.
  have same := oneReached.sound.eq_of_holdsTarget (alike.symm.holdsTarget shown there) twinThere
  rw [same, hidden] at visible
  cases visible

/-- Where a hidden target is not there, the callers that are let through are those to whom its
being there would be revealed. -/
theorem entitled_iff_reveals {policy : Policy} (hides : one.Hides identity command)
    (absent : ∀ object, ¬ other.snapshot.HoldsTarget command object) :
    (command.validate policy = .ok () ∧ identity.Entitled other.snapshot command) ↔
      identity.Reveals policy command := by
  constructor
  · rintro ⟨valid, entitled⟩
    refine ⟨valid, entitled.acting, entitled.entering, ?_, entitled.silence, entitled.client⟩
    obtain ⟨object, ⟨member, owned, -⟩, hidden⟩ := hides
    obtain ⟨limited, tagged⟩ := Identity.limited_of_hidden (owned ▸ entitled.entering) hidden
    have unknown : ¬ command.action.ActsOnKnown := fun acts =>
      (entitled.known limited acts).elim absent
    rw [Action.unguarded_iff, ← Snapshot.kind_of_mem_list member]
    exact ⟨unknown, Object.kind_of_tags tagged⟩
  · intro reveals
    refine ⟨reveals.valid, reveals.acting, reveals.entering, ?_, reveals.silence, reveals.client,
      ?_, ?_⟩
    · exact fun object there => absurd there (absent object)
    · exact fun _ acts => absurd acts (Action.unguarded_iff.mp reveals.unguarded).1
    · exact fun _ _ _ _ check there => absurd there (absent _)

/-- What is refused for a hidden target is not answered like what is relayed without it. -/
theorem execute_ne (oneReached : Reachable setup one) (otherReached : Reachable setup other)
    (hides : one.Hides identity command) (valid : command.validate setup.policy = .ok ())
    (entitled : identity.Entitled other.snapshot command) (network : Network) :
    one.execute identity command network ≠ other.execute identity command network := by
  have admits : other.Admits identity command := by
    refine ⟨?_, entitled, ?_⟩
    · rwa [otherReached.setup_eq]
    · obtain ⟨object, ⟨member, owned, -⟩, -⟩ := hides
      rw [otherReached.setup_eq, ← owned]
      exact oneReached.datacenter_mem_names member
  have relays : other.Relays identity command network :=
    (otherReached.relays_or_refuses identity command network).elim And.right fun refuses =>
      absurd admits refuses.not_admits
  have refuses : one.Refuses identity command (one.execute identity command network) :=
    (oneReached.relays_or_refuses identity command network).resolve_left fun admitted =>
      hides.not_entitled admitted.1.entitled
  intro same
  rw [same] at refuses
  exact relays.not_refuses refuses

/-! ### When commands tell two dashboards apart -/

theorem Reachable.execute_of_refused (reached : Reachable setup one) {failure : Failure}
    (refused : command.validate setup.policy = .error failure) {network : Network} :
    one.execute identity command network = ⟨[], .error failure⟩ := by
  rw [execute, reached.setup_eq, Command.execute, refused]

theorem ShowAlike.execute_eq_iff (alike : ShowAlike identity one other)
    (oneReached : Reachable setup one) (otherReached : Reachable setup other)
    (hides : one.Hides identity command) (shown : ¬ other.Hides identity command)
    (network : Network) :
    one.execute identity command network = other.execute identity command network ↔
      ¬ identity.Reveals setup.policy command := by
  have absent := alike.absent oneReached hides shown
  rw [← entitled_iff_reveals hides absent]
  constructor
  · rintro same ⟨valid, entitled⟩
    exact execute_ne oneReached otherReached hides valid entitled network same
  · intro unrevealed
    cases checked : command.validate setup.policy with
    | error failure =>
      rw [oneReached.execute_of_refused checked, otherReached.execute_of_refused checked]
    | ok _ =>
      refine execute_congr oneReached otherReached (iff_of_false hides.not_entitled ?_) network
      exact fun entitled => unrevealed ⟨checked, entitled⟩

/-- Dashboards that show a caller the same answer a command alike, and send the same requests for
it, exactly when they hide the target both or neither, or the command does not reveal it. -/
theorem execute_eq_iff_of_alike (oneReached : Reachable setup one)
    (otherReached : Reachable setup other) (alike : ShowAlike identity one other)
    (network : Network) :
    one.execute identity command network = other.execute identity command network ↔
      (identity.Reveals setup.policy command →
        (one.Hides identity command ↔ other.Hides identity command)) := by
  by_cases hides : one.Hides identity command
  · by_cases hidden : other.Hides identity command
    · exact iff_of_true (execute_congr oneReached otherReached
        (alike.entitled_iff (iff_of_true hides hidden)) network) fun _ => iff_of_true hides hidden
    · rw [alike.execute_eq_iff oneReached otherReached hides hidden network]
      exact ⟨fun unrevealed reveals => absurd reveals unrevealed,
        fun same reveals => hidden ((same reveals).mp hides)⟩
  · by_cases hidden : other.Hides identity command
    · rw [eq_comm, alike.symm.execute_eq_iff otherReached oneReached hidden hides network]
      exact ⟨fun unrevealed reveals => absurd reveals unrevealed,
        fun same reveals => hides ((same reveals).mpr hidden)⟩
    · exact iff_of_true (execute_congr oneReached otherReached
        (alike.entitled_iff (iff_of_false hides hidden)) network) fun _ =>
          iff_of_false hides hidden

end Dashboard

namespace Sample

/-- All that the polled dashboard has is out of sight for who looks after linux. -/
theorem alike_fresh : Dashboard.ShowAlike (operator "linux") (polled oneSilence) fresh := by
  intro kind object visible
  have nothing : fresh.snapshot.list kind = [] := by cases kind <;> rfl
  rw [nothing]
  refine iff_of_false (fun member => ?_) List.not_mem_nil
  have hidden : ∀ held ∈ (polled oneSilence).snapshot.list kind,
      (operator "linux").maySee (.object held) = false := by
    rw [snapshot_polled_oneSilence]
    cases kind <;> decide +kernel
  rw [hidden object member] at visible
  cases visible

end Sample

namespace Dashboard

/-- The deletion of a client tells nothing of what is out of sight. -/
theorem execute_eq_iff_of_alike_deleting :
    Reachable Sample.setup (Sample.polled Sample.oneSilence) ∧
      Reachable Sample.setup Sample.fresh ∧
      ShowAlike (Sample.operator "linux") (Sample.polled Sample.oneSilence) Sample.fresh ∧
      (Sample.polled Sample.oneSilence).execute (Sample.operator "linux")
          ⟨"east", .deleteClient "web"⟩ (fun _ => .closed) =
        Sample.fresh.execute (Sample.operator "linux") ⟨"east", .deleteClient "web"⟩
          fun _ => .closed :=
  ⟨Sample.reachable_polled _, Sample.reachable_fresh, Sample.alike_fresh,
    (execute_eq_iff_of_alike (Sample.reachable_polled _) Sample.reachable_fresh Sample.alike_fresh
      _).mpr fun reveals => reveals.unguarded.elim⟩

/-- Clearing a silence that is out of sight sends nothing, whereas clearing one that is not there
sends a request: the refusal gives the silence away. -/
theorem clearing_reveals_silence :
    Reachable Sample.setup (Sample.polled Sample.oneSilence) ∧
      Reachable Sample.setup Sample.fresh ∧
      ShowAlike (Sample.operator "linux") (Sample.polled Sample.oneSilence) Sample.fresh ∧
      (Sample.polled Sample.oneSilence).execute (Sample.operator "linux") Sample.clearing
          (fun _ => .closed) ≠
        Sample.fresh.execute (Sample.operator "linux") Sample.clearing fun _ => .closed := by
  refine ⟨Sample.reachable_polled _, Sample.reachable_fresh, Sample.alike_fresh, fun same => ?_⟩
  have sent := congrArg (fun relayed => relayed.sent.length) same
  revert sent
  decide +kernel

end Dashboard

end FleetView
