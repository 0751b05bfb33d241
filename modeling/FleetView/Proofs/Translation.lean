/-
This file reads off what a configuration comes to where nothing is wrong with it.
Settings are checked one after the other and the first mistake ends it, so where there
is none every single check has gone well: each entry has become a datacenter or a role
of its own, in the order of the configuration, and the registry is made of these.
-/

import FleetView.Proofs.Registry
import FleetView.Proofs.Traversal
import FleetView.Config.Setup

namespace FleetView

theorem positive_eq_ok_iff (field : String) {seconds : Nat} :
    positive field seconds = .ok () ↔ seconds ≠ 0 := by
  unfold positive
  split
  · rename_i zero
    exact iff_of_false nofun fun other => other zero
  · rename_i other
    exact iff_of_true rfl other

/-! ### Datacenters -/

namespace DatacenterEntry

/-- The password of an entry: the text of its variable, for want of one the text that is written
down, and for want of both the empty text. -/
inductive Password (entry : DatacenterEntry) (environment : Environment) : String → Prop where
  | looked {source password : String} (named : entry.passwordVariable = some source)
      (found : environment.get? source = some password) : Password entry environment password
  | written {password : String} (unnamed : entry.passwordVariable = none)
      (present : entry.password = some password) : Password entry environment password
  | empty (unnamed : entry.passwordVariable = none) (absent : entry.password = none) :
      Password entry environment ""

/-- How the certificates of an entry are checked: not at all where it says so, even if it names a
certificate; else against the one that it names. -/
inductive Certified (entry : DatacenterEntry) : Tls → Prop where
  | insecure (lax : entry.insecure = true) : Certified entry .insecure
  | ca {path : String} (strict : entry.insecure = false)
      (named : entry.certificate = some path) : Certified entry (.ca path)
  | system (strict : entry.insecure = false) (unnamed : entry.certificate = none) :
      Certified entry .system

/-- A datacenter that is made of an entry. -/
structure Makes (entry : DatacenterEntry) (environment : Environment) (made : Datacenter) :
    Prop where
  name : made.name = entry.name
  url : Url.parse entry.url = .ok made.url
  username : made.credentials.map (·.username) = entry.user
  password : ∀ credentials, made.credentials = some credentials →
    entry.Password environment credentials.password
  tls : entry.Certified made.tls
  timeout : made.timeout = entry.timeout.map .ofSeconds

variable {entry : DatacenterEntry} {environment : Environment}

theorem certified_iff {tls : Tls} : entry.Certified tls ↔ entry.tls = tls := by
  unfold DatacenterEntry.tls
  constructor
  · intro certified
    cases certified with
    | insecure lax => rw [if_pos lax]
    | ca strict named => rw [strict, named]; rfl
    | system strict unnamed => rw [strict, unnamed]; rfl
  · rintro rfl
    cases lax : entry.insecure with
    | true => exact .insecure lax
    | false =>
      cases named : entry.certificate with
      | none => exact .system lax named
      | some path => exact .ca lax named

theorem secret_eq_ok_iff {password : String} :
    entry.secret environment = .ok password ↔ entry.Password environment password := by
  unfold secret
  constructor
  · intro read
    cases named : entry.passwordVariable with
    | none =>
      rw [named] at read
      cases present : entry.password with
      | none =>
        rw [present] at read
        exact Except.ok.inj read ▸ .empty named present
      | some written =>
        rw [present] at read
        exact Except.ok.inj read ▸ .written named present
    | some source =>
      simp only [named] at read
      cases found : environment.get? source with
      | none =>
        rw [found] at read
        cases read
      | some value =>
        rw [found] at read
        exact Except.ok.inj read ▸ .looked named found
  · intro password
    cases password with
    | looked named found => simp only [named, found]
    | written unnamed present => simp only [unnamed, present, Option.getD_some]
    | empty unnamed absent => simp only [unnamed, absent, Option.getD_none]

/-- There are credentials exactly when there is a user, and then they are those of the user with
the password of the entry. -/
theorem credentials_eq_ok_iff {made : Option Credentials} :
    entry.credentials environment = .ok made ↔
      made.map (·.username) = entry.user ∧
        ∀ credentials, made = some credentials →
          entry.Password environment credentials.password := by
  unfold DatacenterEntry.credentials
  cases entry.user with
  | none =>
    rw [Except.ok.injEq, Option.map_eq_none_iff]
    constructor
    · rintro rfl
      exact ⟨rfl, nofun⟩
    · exact fun found => found.1.symm
  | some username =>
    simp only [map_eq_ok_iff, secret_eq_ok_iff]
    constructor
    · rintro ⟨password, held, rfl⟩
      exact ⟨rfl, fun _ same => Option.some.inj same ▸ held⟩
    · rintro ⟨named, held⟩
      obtain ⟨⟨_, password⟩, rfl, rfl⟩ := Option.map_eq_some_iff.mp named
      exact ⟨password, held _ rfl, rfl⟩

/-- Of an entry at most one datacenter can be made, out of its address and its credentials. -/
theorem makes_iff {made : Datacenter} :
    entry.Makes environment made ↔
      ∃ url, Url.parse entry.url = .ok url ∧
        ∃ credentials, entry.credentials environment = .ok credentials ∧
          ⟨entry.name, url, credentials, entry.tls, entry.timeout.map .ofSeconds⟩ = made := by
  constructor
  · rintro ⟨name, address, username, password, tls, timeout⟩
    refine ⟨made.url, address, made.credentials,
      credentials_eq_ok_iff.mpr ⟨username, password⟩, ?_⟩
    rw [← name, ← timeout, certified_iff.mp tls]
  · rintro ⟨url, address, credentials, held, rfl⟩
    obtain ⟨username, password⟩ := credentials_eq_ok_iff.mp held
    exact ⟨rfl, address, username, password, certified_iff.mpr rfl, rfl⟩

/-- An entry comes to a datacenter exactly when its address, its time and its password are in
order, and then to the one that it makes. -/
theorem datacenter_eq_ok_iff {made : Datacenter} :
    entry.datacenter environment = .ok made ↔
      entry.timeout ≠ some 0 ∧ entry.Makes environment made := by
  rw [makes_iff]
  unfold DatacenterEntry.datacenter
  simp only [bind_eq_ok_iff, mapError_eq_ok_iff]
  cases entry.timeout with
  | none => simp [bind_eq_ok_iff]
  | some seconds =>
    rw [ne_eq, Option.some.injEq, ← ne_eq, ← positive_eq_ok_iff
      ("datacenters." ++ entry.name ++ ".timeout_secs")]
    simp only [bind_eq_ok_iff, Except.ok.injEq]
    constructor
    · rintro ⟨url, address, _, fine, credentials, held, same⟩
      exact ⟨fine, url, address, credentials, held, same⟩
    · rintro ⟨fine, url, address, credentials, held, same⟩
      exact ⟨url, address, (), fine, credentials, held, same⟩

end DatacenterEntry

/-! ### The whole -/

namespace Registry

/-- A registry is built from entries exactly when they have no flaw, and then it is made of
them. -/
theorem build_eq_ok_iff {datacenters : List Datacenter} {roles : List Role} {registry : Registry} :
    build datacenters roles = .ok registry ↔
      registry.datacenters = datacenters ∧ registry.roles = roles := by
  unfold build
  split
  · rename_i flawless
    constructor
    · intro same
      rw [← Except.ok.inj same]
      exact ⟨rfl, rfl⟩
    · rintro ⟨rfl, rfl⟩
      rfl
  · rename_i flaw flawed
    refine iff_of_false nofun ?_
    rintro ⟨rfl, rfl⟩
    rw [registry.flawless] at flawed
    cases flawed

end Registry

namespace Config

/-- A configuration is accepted exactly when its times are positive, each of its entries is in
order, and these make up a registry; then the dashboard is built from that registry and from the
general rules of the configuration. -/
theorem setup_eq_ok_iff {config : Config} {environment : Environment} {setup : Setup} :
    config.setup environment = .ok setup ↔
      config.dashboard.pollTimeout ≠ 0 ∧ config.dashboard.dispatchTimeout ≠ 0 ∧
        config.datacenters.mapM (·.datacenter environment) = .ok setup.registry.datacenters ∧
        config.roles.mapM (·.role) = .ok setup.registry.roles ∧
        setup.policy = config.dashboard.policy := by
  unfold Config.setup
  rw [← positive_eq_ok_iff "dashboard.poll_timeout_secs",
    ← positive_eq_ok_iff "dashboard.dispatch_timeout_secs"]
  cases polls : positive "dashboard.poll_timeout_secs" config.dashboard.pollTimeout with
  | error flaw => exact iff_of_false nofun fun found => nomatch found.1
  | ok _ =>
    cases sends : positive "dashboard.dispatch_timeout_secs" config.dashboard.dispatchTimeout with
    | error flaw => exact iff_of_false nofun fun found => nomatch found.2.1
    | ok _ =>
      cases datacentersRead : config.datacenters.mapM (·.datacenter environment) with
      | error flaw => exact iff_of_false nofun fun found => nomatch found.2.2.1
      | ok datacenters =>
        cases rolesRead : config.roles.mapM (·.role) with
        | error flaw => exact iff_of_false nofun fun found => nomatch found.2.2.2.1
        | ok roles =>
          show (((Registry.build datacenters roles).mapError _).bind fun registry =>
            .ok ⟨registry, config.dashboard.policy⟩) = .ok setup ↔ _
          have made : Registry.build datacenters roles = .ok setup.registry ↔
              (.ok datacenters : Except ConfigFlaw _) = .ok setup.registry.datacenters ∧
                (.ok roles : Except ConfigFlaw _) = .ok setup.registry.roles := by
            rw [Registry.build_eq_ok_iff, Except.ok.injEq, Except.ok.injEq,
              @eq_comm _ datacenters, @eq_comm _ roles]
          cases built : Registry.build datacenters roles with
          | error flaw =>
            rw [built] at made
            exact iff_of_false nofun fun found =>
              nomatch made.mpr ⟨found.2.2.1, found.2.2.2.1⟩
          | ok registry =>
            rw [built] at made
            constructor
            · intro same
              obtain rfl := Except.ok.inj same
              exact ⟨rfl, rfl, (made.mp rfl).1, (made.mp rfl).2, rfl⟩
            · rintro ⟨-, -, datacentersSame, rolesSame, policySame⟩
              rw [Except.ok.inj (made.mpr ⟨datacentersSame, rolesSame⟩), ← policySame]
              rfl

end Config

/-! ### A small configuration -/

namespace Sample

/-- A configuration of a datacenter on the machine itself, with some roles. -/
def configuration (roles : List RoleEntry) : Config :=
  ⟨.standard, [⟨"near", "http://[::1]:4567", none, none, none, none, false, none⟩], roles⟩

/-- The datacenter that it speaks of. -/
def near : Datacenter where
  name := "near"
  url := ⟨"http", some ⟨"", none, some (.ipv6 [0, 0, 0, 0, 0, 0, 0, 1]), some 4567⟩,
    .segments [""], none, none⟩
  credentials := none
  tls := .system
  timeout := none

/-- The datacenter on the machine itself, alone. -/
def nearSetup : Setup := ⟨⟨[near], [], by decide +kernel⟩, DashboardSettings.standard.policy⟩

theorem datacenters_of_configuration (roles : List RoleEntry) :
    (configuration roles).datacenters.mapM (·.datacenter []) = .ok [near] := by
  show [_].mapM _ = _
  decide +kernel

end Sample

end FleetView
