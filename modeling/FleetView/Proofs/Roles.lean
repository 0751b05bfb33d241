/-
This file follows a role from the configuration to what a caller in it sees. The entry
of the role says which datacenters and which subscriptions it is for; the registry, the
caller and the rules of access each hold a part of that in a form of their own. Put
together they let the caller see an object exactly when the entry grants it, which is
said here without any of them, kind by kind. A role that no entry speaks of grants
nothing.
-/

import FleetView.Proofs.Confinement
import FleetView.Proofs.Translation

namespace FleetView

namespace NameSet

theorem mem_insert {name other : String} {set : NameSet} :
    name ∈ insert other set ↔ name = other ∨ name ∈ set := by
  induction set with
  | nil => exact List.mem_cons
  | cons first rest inductionHypothesis =>
    rw [insert]
    split
    · exact List.mem_cons
    · split
      · rename_i same
        rw [same, List.mem_cons, ← or_assoc, or_self]
      · rw [List.mem_cons, inductionHypothesis, List.mem_cons, or_left_comm]

/-- A name is in the set of some names exactly when it is one of them. -/
theorem mem_ofList {name : String} {names : List String} : name ∈ ofList names ↔ name ∈ names := by
  have folded : ∀ set : NameSet,
      name ∈ names.foldl (fun set other => insert other set) set ↔ name ∈ names ∨ name ∈ set := by
    induction names with
    | nil => simp
    | cons first rest inductionHypothesis =>
      intro set
      rw [List.foldl_cons, inductionHypothesis, mem_insert, List.mem_cons, or_left_comm, or_assoc]
  rw [ofList, folded, or_iff_left List.not_mem_nil]

end NameSet

/-! ### What an entry grants -/

/-- Whether an object shares one of some names, as far as its kind has any subscriptions. A client
goes by its own, a check by its subscribers, an event by those of its client and only for want of
these by those of its check, a silence by the one that it is for, and a subscription by its
name. -/
def Object.SharesOneOf (names : List String) : Object → Prop
  | .client object => ∃ name ∈ object.subscriptions, name ∈ names
  | .check object => ∃ name ∈ object.subscribers, name ∈ names
  | .event object =>
    (∃ name ∈ object.clientSubscriptions, name ∈ names) ∨
      object.clientSubscriptions = [] ∧ ∃ name ∈ object.checkSubscribers, name ∈ names
  | .silence object => ∃ name ∈ object.subscription, name ∈ names
  | .subscription object => object.name ∈ names
  | .aggregate _ | .stash _ => True

/-- Whether the entry of a role is for an object: it is for all datacenters or for that of the
object, and where it is for some subscriptions the object shares one of them. -/
def RoleEntry.Grants (entry : RoleEntry) (object : Object) : Prop :=
  (entry.datacenters = ["*"] ∨ object.datacenter ∈ entry.datacenters) ∧
    ∀ names, entry.subscriptions = some names → object.SharesOneOf names

instance (names : List String) : DecidablePred (Object.SharesOneOf names)
  | .client object => inferInstanceAs (Decidable (∃ name ∈ object.subscriptions, name ∈ names))
  | .check object => inferInstanceAs (Decidable (∃ name ∈ object.subscribers, name ∈ names))
  | .event object => inferInstanceAs (Decidable ((∃ name ∈ object.clientSubscriptions, name ∈ names) ∨
      object.clientSubscriptions = [] ∧ ∃ name ∈ object.checkSubscribers, name ∈ names))
  | .silence object => inferInstanceAs (Decidable (∃ name ∈ object.subscription, name ∈ names))
  | .subscription object => inferInstanceAs (Decidable (object.name ∈ names))
  | .aggregate _ | .stash _ => inferInstanceAs (Decidable True)

instance (entry : RoleEntry) : DecidablePred entry.Grants := fun object =>
  inferInstanceAs (Decidable ((entry.datacenters = ["*"] ∨ object.datacenter ∈ entry.datacenters) ∧
    ∀ names ∈ entry.subscriptions, object.SharesOneOf names))

/-- The comparison of tags is the sharing of a name, kind by kind. -/
theorem Object.sharesOneOf_iff {names : List String} {object : Object} :
    object.SharesOneOf names ↔
      ∀ carried, object.tags = some carried → ∃ name ∈ carried, name ∈ names := by
  cases object with
  | client object => simp [SharesOneOf, tags]
  | check object => simp [SharesOneOf, tags]
  | event object =>
    by_cases bare : object.clientSubscriptions = [] <;> simp [SharesOneOf, tags, bare]
  | silence object => simp [SharesOneOf, tags]
  | subscription object => simp [SharesOneOf, tags]
  | aggregate object => simp [SharesOneOf, tags]
  | stash object => simp [SharesOneOf, tags]

/-- Sharing depends on which names there are and not on how they are listed. -/
theorem Object.sharesOneOf_congr {names others : List String} {object : Object}
    (same : ∀ name, name ∈ names ↔ name ∈ others) :
    object.SharesOneOf names ↔ object.SharesOneOf others := by
  simp only [sharesOneOf_iff, same]

/-- Callers see what is in a datacenter that they may enter and shares a name with their
subscription scope, if they have one. -/
theorem Identity.maySee_object_iff {identity : Identity} {object : Object} :
    identity.maySee (.object object) = true ↔
      identity.mayEnter object.datacenter = true ∧
        ∀ allowed, identity.subscriptions = some allowed → object.SharesOneOf allowed := by
  have carried : (Subject.object object).tags = object.tags := rfl
  unfold maySee sees
  rw [Bool.and_eq_true, carried]
  refine and_congr_right fun _ => ?_
  cases identity.subscriptions with
  | none => exact iff_of_true rfl nofun
  | some allowed =>
    simp only [Option.some.injEq, forall_eq', Object.sharesOneOf_iff]
    cases object.tags with
    | none => exact iff_of_true rfl nofun
    | some carried => simp

/-- A caller who is let in nowhere sees nothing. -/
theorem Identity.maySee_eq_false {identity : Identity}
    (nowhere : ∀ datacenter, identity.mayEnter datacenter = false) (subject : Subject) :
    identity.maySee subject = false := by
  unfold maySee sees
  rw [nowhere, Bool.false_and]

/-! ### From an entry to a role -/

namespace RoleEntry

variable {entry : RoleEntry}

/-- The scope of an entry is that of all datacenters or of those that it lists. -/
theorem contains_scope_iff {scope : Scope} (read : entry.scope = .ok scope) (datacenter : String) :
    scope.contains datacenter = true ↔
      entry.datacenters = ["*"] ∨ datacenter ∈ entry.datacenters := by
  unfold RoleEntry.scope at read
  split at read
  · rename_i wildcard
    split at read
    · rename_i alone
      obtain ⟨only, same⟩ := List.length_eq_one_iff.mp alone
      rw [same, List.mem_singleton] at wildcard
      rw [← Except.ok.inj read]
      exact iff_of_true rfl (Or.inl (wildcard ▸ same))
    · cases read
  · rename_i listed
    rw [← Except.ok.inj read, Scope.contains, decide_eq_true_eq, NameSet.mem_ofList]
    refine ⟨Or.inr, fun found => found.resolve_left fun all => listed ?_⟩
    rw [all]
    exact List.mem_singleton_self _

theorem role_eq_ok_iff {role : Role} :
    entry.role = .ok role ↔
      role.name = entry.name ∧ entry.scope = .ok role.datacenters ∧
        role.subscriptions = entry.subscriptions.map .ofList ∧ role.readonly = entry.readonly := by
  unfold RoleEntry.role
  cases entry.scope with
  | error flaw => exact iff_of_false nofun fun found => nomatch found.2.1
  | ok scope =>
    constructor
    · intro same
      rw [← Except.ok.inj same]
      exact ⟨rfl, rfl, rfl, rfl⟩
    · obtain ⟨name, datacenters, subscriptions, readonly⟩ := role
      rintro ⟨rfl, same, rfl, rfl⟩
      rw [Except.ok.inj same]
      rfl

end RoleEntry

namespace Registry

variable (registry : Registry)

/-- A caller in a role has what the role has. -/
theorem identityFor_of_mem {role : Role} (member : role ∈ registry.roles) (username : String) :
    registry.identityFor username role.name =
      ⟨some username, some role.name, role.datacenters, role.subscriptions, role.readonly⟩ := by
  have found : registry.role? role.name = some role :=
    (find?_eq_some_iff_of_nodup registry.nodup_roles).mpr ⟨member, rfl⟩
  rw [identityFor, found]

/-- A caller in a role that is not there is let in nowhere. -/
theorem not_mayEnter_of_unknown {name : String} (unknown : name ∉ registry.roles.map (·.name))
    (username datacenter : String) :
    (registry.identityFor username name).mayEnter datacenter = false := by
  have missing : registry.role? name = none := by
    rw [role?, List.find?_eq_none]
    exact fun role member same => unknown (of_decide_eq_true same ▸ List.mem_map_of_mem member)
  rw [identityFor, missing]
  exact Bool.and_false _

end Registry

/-! ### From a configuration to what is seen -/

namespace Config

variable {config : Config} {environment : Environment} {setup : Setup}

theorem roles_of_setup (accepted : config.setup environment = .ok setup) :
    config.roles.mapM (·.role) = .ok setup.registry.roles :=
  (setup_eq_ok_iff.mp accepted).2.2.2.1

theorem role_names_of_setup (accepted : config.setup environment = .ok setup) :
    config.roles.map (·.name) = setup.registry.roles.map (·.name) :=
  map_eq_of_forall₂ ((mapM_eq_ok_iff.mp (roles_of_setup accepted)).imp fun _ _ read =>
    (RoleEntry.role_eq_ok_iff.mp read).1.symm)

/-- A caller in the role of an entry sees exactly the objects that the entry grants, as far as they
have a datacenter. -/
theorem maySee_identityFor_iff (accepted : config.setup environment = .ok setup)
    {entry : RoleEntry} (member : entry ∈ config.roles) (username : String) {object : Object}
    (owned : object.datacenter ≠ "") :
    (setup.registry.identityFor username entry.name).maySee (.object object) = true ↔
      entry.Grants object := by
  obtain ⟨role, there, read⟩ := exists_of_mapM_eq_ok (roles_of_setup accepted) member
  obtain ⟨name, scope, subscriptions, -⟩ := RoleEntry.role_eq_ok_iff.mp read
  rw [← name, setup.registry.identityFor_of_mem there, Identity.maySee_object_iff,
    Identity.mayEnter_iff, RoleEntry.contains_scope_iff scope, and_iff_right owned,
    RoleEntry.Grants, subscriptions]
  refine and_congr_right fun _ => ?_
  cases entry.subscriptions with
  | none => exact iff_of_true nofun nofun
  | some names =>
    simp only [Option.map_some, Option.some.injEq, forall_eq']
    exact Object.sharesOneOf_congr fun _ => NameSet.mem_ofList

end Config

namespace Dashboard

variable {config : Config} {environment : Environment} {setup : Setup} {dashboard : Dashboard}

/-- A caller in a configured role sees those objects of each kind, in their order, that the entry of
the role grants. A caller in any other role sees no object and no datacenter, and has nothing
relayed. -/
theorem roles_confine (accepted : config.setup environment = .ok setup)
    (reached : Reachable setup dashboard) :
    (∀ entry ∈ config.roles, ∀ username kind,
      (dashboard.identityFor username entry.name).filter kind (dashboard.snapshot.list kind) =
        (dashboard.snapshot.list kind).filter fun object => decide (entry.Grants object)) ∧
    (∀ name, name ∉ config.roles.map (·.name) → ∀ username,
      (∀ kind, (dashboard.identityFor username name).filter kind (dashboard.snapshot.list kind) =
        []) ∧
      dashboard.snapshot.visibleDatacenters (dashboard.identityFor username name) = [] ∧
      ∀ command network,
        ¬ dashboard.Relays (dashboard.identityFor username name) command network ∧
          (dashboard.execute (dashboard.identityFor username name) command network).sent = []) := by
  obtain rfl := reached.setup_eq
  refine ⟨fun entry member username kind => ?_, fun name unknown username => ?_⟩
  · refine List.filter_congr fun object there => ?_
    have owned := dashboard.setup.registry.name_ne_empty (reached.datacenter_mem_names there)
    rw [Bool.eq_iff_iff, Bool.and_eq_true, decide_eq_true_eq, decide_eq_true_eq,
      and_iff_right (Snapshot.kind_of_mem_list there)]
    exact Config.maySee_identityFor_iff accepted member username owned
  · rw [Config.role_names_of_setup accepted] at unknown
    have nowhere : ∀ datacenter, (dashboard.identityFor username name).mayEnter datacenter = false :=
      dashboard.setup.registry.not_mayEnter_of_unknown unknown username
    have blind := Identity.maySee_eq_false nowhere
    refine ⟨fun kind => ?_, ?_, fun command network => ?_⟩
    · refine List.filter_eq_nil_iff.mpr fun object _ seen => ?_
      rw [blind, Bool.and_false] at seen
      cases seen
    · refine List.filter_eq_nil_iff.mpr fun status _ seen => ?_
      rw [blind] at seen
      cases seen
    · rcases reached.relays_or_refuses (dashboard.identityFor username name) command network with
        ⟨admits, -⟩ | refuses
      · have enters := Identity.mayEnter_iff.mpr admits.entitled.entering
        rw [nowhere] at enters
        cases enters
      · obtain ⟨failure, refused, -⟩ := refuses.answer
        exact ⟨fun relays => relays.not_refuses refuses, congrArg Relayed.sent refused⟩

end Dashboard

namespace Sample

/-- A role for one subscription of a datacenter. -/
def windowsRole : RoleEntry := ⟨"windows", ["near"], some ["windows"], false⟩

/-- A role for another subscription of all datacenters. -/
def linuxRole : RoleEntry := ⟨"linux", ["*"], some ["linux"], true⟩

/-- What comes of a configuration with both roles. -/
def roleSetup : Setup :=
  ⟨⟨[near],
      [⟨"windows", .only ["near"], some ["windows"], false⟩, ⟨"linux", .all, some ["linux"], true⟩],
      by decide +kernel⟩, DashboardSettings.standard.policy⟩

theorem configuration_accepted :
    (configuration [windowsRole, linuxRole]).setup [] = .ok roleSetup :=
  Config.setup_eq_ok_iff.mpr
    ⟨nofun, nofun, datacenters_of_configuration _, by decide +kernel, rfl⟩

/-- The dashboard over it, before the first poll. -/
def roleFresh : Dashboard :=
  ⟨roleSetup, roleSetup.backends, Snapshot.initial ["near"], false, false⟩

/-- The dashboard after a poll that finds one silence. -/
def rolePolled : Dashboard := roleFresh.run [.poll (answering oneSilence) ⟨1, 0⟩]

theorem roleBuilt (files : Files) : Dashboard.build roleSetup files = .ok roleFresh := rfl

theorem snapshot_rolePolled :
    rolePolled.snapshot =
      ⟨1, [⟨Status.reachable "near" ⟨1, 0⟩, Collections.ofFetched "near" fetched⟩]⟩ :=
  Dashboard.snapshot_run_poll (roleBuilt fun _ => .vacant "") rfl
    (eq_ok_of_toOption_eq_some (by decide +kernel))

end Sample

/-- The silence of one subscription is seen in its role, not in that of another subscription, and
not in a role that nobody has configured. -/
theorem Dashboard.roles_confine_silence :
    (Sample.configuration [Sample.windowsRole, Sample.linuxRole]).setup [] =
        .ok Sample.roleSetup ∧
      Reachable Sample.roleSetup Sample.rolePolled ∧
      (Sample.rolePolled.snapshot.list .silence).map (·.key) = ["windows:*"] ∧
      (Sample.rolePolled.identityFor "ann" "windows").filter .silence
        (Sample.rolePolled.snapshot.list .silence) = Sample.rolePolled.snapshot.list .silence ∧
      (Sample.rolePolled.identityFor "ann" "linux").filter .silence
        (Sample.rolePolled.snapshot.list .silence) = [] ∧
      (Sample.rolePolled.identityFor "ann" "guest").filter .silence
        (Sample.rolePolled.snapshot.list .silence) = [] := by
  have accepted := Sample.configuration_accepted
  have reached : Reachable Sample.roleSetup Sample.rolePolled :=
    ⟨fun _ => .vacant "", Sample.roleFresh, _, Sample.roleBuilt _, rfl⟩
  obtain ⟨configured, others⟩ := roles_confine accepted reached
  have windows := configured Sample.windowsRole List.mem_cons_self "ann" .silence
  have linux := configured Sample.linuxRole (List.mem_cons_of_mem _ List.mem_cons_self) "ann"
    .silence
  have guest := (others "guest" (by decide) "ann").1 .silence
  rw [Sample.snapshot_rolePolled] at *
  refine ⟨accepted, reached, by decide +kernel, windows.trans ?_, linux.trans ?_, guest⟩
  · decide +kernel
  · decide +kernel

end FleetView
