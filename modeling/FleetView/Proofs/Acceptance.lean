/-
This file says which configurations are accepted, and what is made of them. The checks
are spread over the settings, the entries and the registry, and the first one that
fails ends it; here they are put together into one list of conditions that an entry,
or the configuration as a whole, has to satisfy. Every condition is needed and together
they are enough. What a role is made of is said field by field in the words of its
entry, as it is for datacenters, and the order of the entries is that of what is made.
-/

import FleetView.Proofs.Ordered
import FleetView.Proofs.Roles
import FleetView.Proofs.Starting

namespace FleetView

/-! ### Sets of names -/

namespace NameSet

/-- The set of some names: these and no others, in order and none twice. -/
structure Of (names : List String) (set : NameSet) : Prop where
  ascending : Ascending id set
  mem_iff : ∀ name, name ∈ set ↔ name ∈ names

theorem ascending_insert (name : String) {set : NameSet} (ascending : Ascending id set) :
    Ascending id (insert name set) := by
  induction set with
  | nil => exact List.pairwise_singleton _ _
  | cons other rest inductionHypothesis =>
    rw [insert]
    split
    · rename_i below
      exact ascending.before below
    · split
      · exact ascending
      · rename_i beyond differs
        exact ascending.behind beyond differs
          (inductionHypothesis (List.Pairwise.of_cons ascending)) fun _ => mem_insert.mp

theorem of_ofList (names : List String) : Of names (ofList names) := by
  have folded : ∀ set : NameSet, Ascending id set →
      Ascending id (names.foldl (fun set other => insert other set) set) := by
    induction names with
    | nil => exact fun _ ascending => ascending
    | cons first rest inductionHypothesis =>
      exact fun set ascending => inductionHypothesis _ (ascending_insert first ascending)
  exact ⟨folded [] List.Pairwise.nil, fun _ => mem_ofList⟩

end NameSet

/-! ### What a role is made of -/

namespace RoleEntry

/-- Where an entry lets its role look: everywhere for an asterisk alone, and else in the datacenters
that it lists. -/
inductive Scoped (entry : RoleEntry) : Scope → Prop where
  | all (alone : entry.datacenters = ["*"]) : Scoped entry .all
  | only {names : NameSet} (listed : "*" ∉ entry.datacenters)
      (same : NameSet.Of entry.datacenters names) : Scoped entry (.only names)

/-- A role that is made of an entry. -/
structure Makes (entry : RoleEntry) (made : Role) : Prop where
  name : made.name = entry.name
  datacenters : entry.Scoped made.datacenters
  subscriptions : Option.Rel NameSet.Of entry.subscriptions made.subscriptions
  readonly : made.readonly = entry.readonly

variable {entry : RoleEntry}

theorem scoped_of_scope_eq_ok {scope : Scope} (read : entry.scope = .ok scope) :
    entry.Scoped scope := by
  unfold RoleEntry.scope at read
  split at read
  · rename_i wildcard
    split at read
    · rename_i alone
      obtain ⟨only, same⟩ := List.length_eq_one_iff.mp alone
      rw [same, List.mem_singleton] at wildcard
      rw [← Except.ok.inj read]
      exact .all (wildcard ▸ same)
    · cases read
  · rename_i listed
    rw [← Except.ok.inj read]
    exact .only listed (NameSet.of_ofList _)

theorem makes_of_role_eq_ok {made : Role} (read : entry.role = .ok made) : entry.Makes made := by
  obtain ⟨name, scope, subscriptions, readonly⟩ := role_eq_ok_iff.mp read
  refine ⟨name, scoped_of_scope_eq_ok scope, ?_, readonly⟩
  rw [subscriptions]
  cases entry.subscriptions with
  | none => exact .none
  | some names => exact .some (NameSet.of_ofList names)

/-- What an entry has to satisfy among known datacenters: an asterisk stands alone, and every
datacenter that is listed without one is known. -/
def Acceptable (entry : RoleEntry) (known : List String) : Prop :=
  entry.datacenters = ["*"] ∨ "*" ∉ entry.datacenters ∧ ∀ name ∈ entry.datacenters, name ∈ known

theorem exists_role_of_acceptable {known : List String} (fine : entry.Acceptable known) :
    ∃ made, entry.role = .ok made := by
  have somewhere : ∃ scope, entry.scope = .ok scope := by
    unfold RoleEntry.scope
    rcases fine with alone | ⟨listed, -⟩
    · exact ⟨.all, by rw [alone]; rfl⟩
    · exact ⟨_, if_neg listed⟩
  obtain ⟨scope, read⟩ := somewhere
  exact ⟨⟨entry.name, scope, entry.subscriptions.map .ofList, entry.readonly⟩,
    role_eq_ok_iff.mpr ⟨rfl, read, rfl, rfl⟩⟩

/-- An entry with a scope is acceptable exactly when the scope speaks of no stranger. -/
theorem Scoped.strangerIn?_eq_none_iff {known : List String} {scope : Scope}
    (look : entry.Scoped scope) :
    Registry.strangerIn? known scope = none ↔ entry.Acceptable known := by
  rw [Registry.strangerIn?_eq_none_iff, Acceptable]
  cases look with
  | all alone => exact iff_of_true nofun (Or.inl alone)
  | only listed same =>
    have several : entry.datacenters ≠ ["*"] := fun alone => listed (alone ▸ List.mem_cons_self)
    simp only [Scope.only.injEq, forall_eq', same.mem_iff, or_iff_right several,
      and_iff_right listed]

end RoleEntry

/-! ### What is accepted -/

/-- What the entry of a datacenter has to satisfy by itself. -/
structure DatacenterEntry.Acceptable (entry : DatacenterEntry) (environment : Environment) :
    Prop where
  named : ¬ Text.Blank entry.name
  addressed : ∃ url, Url.parse entry.url = .ok url ∧ (url.scheme = "http" ∨ url.scheme = "https")
  timed : entry.timeout ≠ some 0
  known : ∀ source, entry.user ≠ none → entry.passwordVariable = some source →
    environment.get? source ≠ none

/-- What a configuration has to satisfy. -/
structure Config.Acceptable (config : Config) (environment : Environment) : Prop where
  polls : 0 < config.dashboard.pollTimeout
  sends : 0 < config.dashboard.dispatchTimeout
  inhabited : config.datacenters ≠ []
  distinct : (config.datacenters.map (·.name)).Nodup
  datacenters : ∀ entry ∈ config.datacenters, entry.Acceptable environment
  distinctRoles : (config.roles.map (·.name)).Nodup
  roles : ∀ entry ∈ config.roles, entry.Acceptable (config.datacenters.map (·.name))

/-- What is made of a configuration: its datacenters and roles in their order, under the rules of
its settings. -/
structure Config.Makes (config : Config) (environment : Environment) (setup : Setup) : Prop where
  datacenters : List.Forall₂ (fun entry made => entry.Makes environment made) config.datacenters
    setup.registry.datacenters
  roles : List.Forall₂ (fun entry made => entry.Makes made) config.roles setup.registry.roles
  policy : setup.policy =
    { refreshInterval := .ofSeconds config.dashboard.refreshInterval
      pollTimeout := .ofSeconds config.dashboard.pollTimeout
      dispatchTimeout := .ofSeconds config.dashboard.dispatchTimeout
      requireSilencingReason := config.dashboard.requireSilencingReason
      disableNoExpiration := config.dashboard.disableNoExpiration
      retainStaleData := config.dashboard.retainStaleData }

namespace DatacenterEntry

variable {entry : DatacenterEntry} {environment : Environment}

/-- A usable datacenter is made of acceptable entries only. -/
theorem acceptable_of_datacenter_eq_ok {made : Datacenter}
    (read : entry.datacenter environment = .ok made) (usable : Registry.Usable made) :
    entry.Acceptable environment := by
  obtain ⟨timed, makes⟩ := datacenter_eq_ok_iff.mp read
  refine ⟨makes.name ▸ usable.1, ⟨made.url, makes.url, usable.2⟩, timed,
    fun source authorized named unset => ?_⟩
  obtain ⟨username, present⟩ := Option.ne_none_iff_exists'.mp authorized
  obtain ⟨⟨_, password⟩, held, -⟩ := Option.map_eq_some_iff.mp (makes.username.trans present)
  cases (makes.password _ held : entry.Password environment password) with
  | looked other found =>
    rw [Option.some.inj (named.symm.trans other), found] at unset
    cases unset
  | written unnamed => cases unnamed.symm.trans named
  | empty unnamed => cases unnamed.symm.trans named

theorem exists_password {source : Option String} (named : entry.passwordVariable = source)
    (known : ∀ name, source = some name → environment.get? name ≠ none) :
    ∃ password, entry.Password environment password := by
  cases source with
  | some name =>
    obtain ⟨password, found⟩ := Option.ne_none_iff_exists'.mp (known name rfl)
    exact ⟨password, .looked named found⟩
  | none =>
    cases written : entry.password with
    | some password => exact ⟨password, .written named written⟩
    | none => exact ⟨"", .empty named written⟩

theorem exists_datacenter_of_acceptable (fine : entry.Acceptable environment) :
    ∃ made, entry.datacenter environment = .ok made := by
  obtain ⟨url, address, -⟩ := fine.addressed
  have held : ∃ credentials, entry.credentials environment = .ok credentials := by
    cases present : entry.user with
    | none => exact ⟨none, credentials_eq_ok_iff.mpr ⟨present.symm, nofun⟩⟩
    | some username =>
      obtain ⟨password, right⟩ := exists_password rfl fun source named =>
        fine.known source (present ▸ Option.some_ne_none _) named
      exact ⟨some ⟨username, password⟩, credentials_eq_ok_iff.mpr
        ⟨present.symm, fun _ same => Option.some.inj same ▸ right⟩⟩
  obtain ⟨credentials, held⟩ := held
  exact ⟨_, datacenter_eq_ok_iff.mpr
    ⟨fine.timed, makes_iff.mpr ⟨url, address, credentials, held, rfl⟩⟩⟩

/-- What is made of an acceptable entry is usable. -/
theorem Acceptable.usable (fine : entry.Acceptable environment) {made : Datacenter}
    (makes : entry.Makes environment made) : Registry.Usable made := by
  obtain ⟨url, address, web⟩ := fine.addressed
  obtain rfl := Except.ok.inj (address.symm.trans makes.url)
  exact ⟨makes.name ▸ fine.named, web⟩

end DatacenterEntry

namespace Config

variable {config : Config} {environment : Environment} {setup : Setup}

theorem makes_of_setup_eq_ok (accepted : config.setup environment = .ok setup) :
    config.Makes environment setup := by
  obtain ⟨-, -, datacenters, roles, policy⟩ := setup_eq_ok_iff.mp accepted
  exact ⟨(mapM_eq_ok_iff.mp datacenters).imp fun _ _ read =>
      (DatacenterEntry.datacenter_eq_ok_iff.mp read).2,
    (mapM_eq_ok_iff.mp roles).imp fun _ _ read => RoleEntry.makes_of_role_eq_ok read, policy⟩

theorem acceptable_of_setup_eq_ok (accepted : config.setup environment = .ok setup) :
    config.Acceptable environment := by
  obtain ⟨polls, sends, datacenters, roles, -⟩ := setup_eq_ok_iff.mp accepted
  have names := names_of_setup accepted
  refine ⟨Nat.pos_of_ne_zero polls, Nat.pos_of_ne_zero sends, fun empty => ?_, ?_,
    fun entry member => ?_, ?_, fun entry member => ?_⟩
  · rw [empty, List.mapM_nil] at datacenters
    exact (Registry.flaw?_eq_none_iff.mp setup.registry.flawless).1 (Except.ok.inj datacenters).symm
  · rw [← names]
    exact setup.registry.nodup_names
  · obtain ⟨made, there, read⟩ := exists_of_mapM_eq_ok datacenters member
    exact DatacenterEntry.acceptable_of_datacenter_eq_ok read (setup.registry.usable_of_mem there)
  · rw [role_names_of_setup accepted]
    exact setup.registry.nodup_roles
  · obtain ⟨made, there, read⟩ := exists_of_mapM_eq_ok roles member
    rw [← names, ← (RoleEntry.makes_of_role_eq_ok read).datacenters.strangerIn?_eq_none_iff]
    exact (((Registry.roleFlaw?_eq_none_iff _ _ _).mp setup.registry.roleFlaw?_roles).1
      made there).1

/-- The entries of an acceptable configuration have no flaw as a registry. -/
theorem Acceptable.flaw?_eq_none (fine : config.Acceptable environment)
    {datacenters : List Datacenter} {roles : List Role}
    (datacentersRead : config.datacenters.mapM (·.datacenter environment) = .ok datacenters)
    (rolesRead : config.roles.mapM (·.role) = .ok roles) :
    Registry.flaw? datacenters roles = none := by
  have datacentersMade := mapM_eq_ok_iff.mp datacentersRead
  have rolesMade := mapM_eq_ok_iff.mp rolesRead
  have names : config.datacenters.map (·.name) = datacenters.map (·.name) :=
    map_eq_of_forall₂ (datacentersMade.imp fun _ _ read =>
      (DatacenterEntry.datacenter_eq_ok_iff.mp read).2.name.symm)
  have roleNames : config.roles.map (·.name) = roles.map (·.name) :=
    map_eq_of_forall₂ (rolesMade.imp fun _ _ read => (RoleEntry.role_eq_ok_iff.mp read).1.symm)
  rw [Registry.flaw?_eq_none_iff, Registry.datacenterFlaw?_eq_none_iff,
    Registry.roleFlaw?_eq_none_iff, ← names, ← roleNames]
  refine ⟨?_, ⟨fun made member => ⟨?_, List.not_mem_nil⟩, fine.distinct⟩,
    fun made member => ⟨?_, List.not_mem_nil⟩, fine.distinctRoles⟩
  · rintro rfl
    exact fine.inhabited (List.map_eq_nil_iff.mp names)
  · obtain ⟨entry, listed, read⟩ := exists_left_of_forall₂ datacentersMade member
    exact (fine.datacenters entry listed).usable (DatacenterEntry.datacenter_eq_ok_iff.mp read).2
  · obtain ⟨entry, listed, read⟩ := exists_left_of_forall₂ rolesMade member
    exact (RoleEntry.makes_of_role_eq_ok read).datacenters.strangerIn?_eq_none_iff.mpr
      (fine.roles entry listed)

theorem exists_setup_of_acceptable (fine : config.Acceptable environment) :
    ∃ setup, config.setup environment = .ok setup := by
  obtain ⟨datacenters, datacentersRead⟩ := exists_mapM_eq_ok fun entry member =>
    DatacenterEntry.exists_datacenter_of_acceptable (fine.datacenters entry member)
  obtain ⟨roles, rolesRead⟩ := exists_mapM_eq_ok fun entry member =>
    RoleEntry.exists_role_of_acceptable (fine.roles entry member)
  have flawless := fine.flaw?_eq_none datacentersRead rolesRead
  exact ⟨⟨⟨datacenters, roles, flawless⟩, config.dashboard.policy⟩, setup_eq_ok_iff.mpr
    ⟨fine.polls.ne', fine.sends.ne', datacentersRead, rolesRead, rfl⟩⟩

/-- A configuration is accepted exactly when it satisfies every one of the conditions, and then each
of its fields is in what is made of it. -/
theorem accepted_iff_acceptable (config : Config) (environment : Environment) :
    ((∃ setup, config.setup environment = .ok setup) ↔ config.Acceptable environment) ∧
      ∀ setup, config.setup environment = .ok setup → config.Makes environment setup :=
  ⟨⟨fun ⟨_, accepted⟩ => acceptable_of_setup_eq_ok accepted, exists_setup_of_acceptable⟩,
    fun _ => makes_of_setup_eq_ok⟩

end Config

namespace Sample

/-- A configuration with a password of each kind, of which the variable is the one that counts, and
with a certificate that does not count. -/
def guarded : Config :=
  ⟨.standard,
    [⟨"near", "http://[::1]:4567", some "ann", some "old", some "NEAR_PASSWORD", some 3, true,
      some "ca.pem"⟩],
    [windowsRole, linuxRole]⟩

/-- What is made of it where the variable is set. -/
def guardedSetup : Setup :=
  ⟨⟨[{ near with
        credentials := some ⟨"ann", "new"⟩
        tls := .insecure
        timeout := some (.ofSeconds 3) }],
      roleSetup.registry.roles, by decide +kernel⟩, DashboardSettings.standard.policy⟩

theorem guarded_accepted : guarded.setup [("NEAR_PASSWORD", "new")] = .ok guardedSetup :=
  Config.setup_eq_ok_iff.mpr
    ⟨nofun, nofun, eq_ok_of_toOption_eq_some (by decide +kernel), by decide +kernel, rfl⟩

theorem guarded_refused (setup : Setup) : guarded.setup [] ≠ .ok setup := by
  intro accepted
  have unread : (guarded.datacenters.mapM (DatacenterEntry.datacenter · [])).toOption = none := by
    decide +kernel
  rw [(Config.setup_eq_ok_iff.mp accepted).2.2.1] at unread
  cases unread

end Sample

/-- The same configuration is acceptable where the variable of its password is set, and not where it
is missing. -/
theorem Config.accepted_iff_acceptable_guarded :
    Sample.guarded.setup [("NEAR_PASSWORD", "new")] = .ok Sample.guardedSetup ∧
      Sample.guarded.Acceptable [("NEAR_PASSWORD", "new")] ∧
      Sample.guarded.Makes [("NEAR_PASSWORD", "new")] Sample.guardedSetup ∧
      ¬ Sample.guarded.Acceptable [] := by
  obtain ⟨exactly, makes⟩ := accepted_iff_acceptable Sample.guarded [("NEAR_PASSWORD", "new")]
  refine ⟨Sample.guarded_accepted, exactly.mp ⟨_, Sample.guarded_accepted⟩,
    makes _ Sample.guarded_accepted, fun fine => ?_⟩
  obtain ⟨setup, accepted⟩ := (accepted_iff_acceptable Sample.guarded []).1.mpr fine
  exact Sample.guarded_refused setup accepted

end FleetView
