/-
This file says when it comes to a poll at all. A call loads its configuration, translates it
and sets up a connection to each datacenter, and any of these steps can end it; where none
does, there is a dashboard over the datacenters that the configuration names.
-/

import FleetView.Cli.Program
import FleetView.Proofs.Replies
import FleetView.Proofs.Run
import FleetView.Proofs.Translation

namespace FleetView

/-! ### Building a dashboard -/

/-- A dashboard can be built where the connection to every datacenter can be set up. -/
theorem Dashboard.exists_build_of_connected {setup : Setup} {files : Files}
    (connected : ∀ datacenter ∈ setup.registry.datacenters, ∀ failure,
      Backend.connect datacenter setup.policy files ≠ .error failure) :
    ∃ fresh, build setup files = .ok fresh := by
  have each : ∀ datacenter ∈ setup.registry.datacenters,
      Backend.connect datacenter setup.policy files = .ok (datacenter.backend setup.policy) := by
    intro datacenter member
    cases made : Backend.connect datacenter setup.policy files with
    | error failure => exact absurd made (connected datacenter member failure)
    | ok backend => rw [Backend.connect_eq made]
  have all : (setup.registry.datacenters.mapM fun datacenter =>
      Backend.connect datacenter setup.policy files) =
        .ok (setup.registry.datacenters.map fun datacenter => datacenter.backend setup.policy) :=
    mapM_eq_ok_iff.mpr (List.forall₂_map_right_iff.mpr (List.forall₂_same.mpr each))
  exact ⟨_, bind_eq_ok_iff.mpr ⟨_, all, rfl⟩⟩

/-- A dashboard that can be built has a connection to every datacenter. -/
theorem Dashboard.connected_of_build {setup : Setup} {files : Files} {fresh : Dashboard}
    (built : build setup files = .ok fresh) {datacenter : Datacenter}
    (member : datacenter ∈ setup.registry.datacenters) (failure : Failure) :
    Backend.connect datacenter setup.policy files ≠ .error failure := by
  obtain ⟨backends, all, -⟩ := bind_eq_ok_iff.mp built
  obtain ⟨backend, -, made⟩ := exists_of_mapM_eq_ok all member
  rw [made]
  exact nofun

/-- A connection that cannot be set up is a matter of the configuration. -/
theorem Backend.exists_of_connect_eq_error {datacenter : Datacenter} {policy : Policy}
    {files : Files} {failure : Failure} (refused : connect datacenter policy files = .error failure) :
    ∃ reason, failure = .config reason := by
  unfold connect at refused
  split at refused
  · exact ⟨_, (Except.error.inj refused).symm⟩
  · cases refused

/-- Nothing but the configuration keeps a dashboard from being built. -/
theorem Dashboard.exists_of_build_eq_error {setup : Setup} {files : Files} {failure : Failure}
    (refused : build setup files = .error failure) : ∃ reason, failure = .config reason := by
  cases all : setup.registry.datacenters.mapM fun datacenter =>
      Backend.connect datacenter setup.policy files with
  | error other =>
    rw [build, all] at refused
    cases refused
    obtain ⟨datacenter, -, unmade⟩ := exists_of_mapM_eq_error all
    exact Backend.exists_of_connect_eq_error unmade
  | ok backends =>
    rw [build, all] at refused
    cases refused

/-- The datacenters of a dashboard have the names that the configuration gives them. -/
theorem Config.names_of_setup {config : Config} {environment : Environment} {setup : Setup}
    (translated : config.setup environment = .ok setup) :
    setup.registry.names = config.datacenters.map (·.name) := by
  obtain ⟨-, -, datacenters, -, -⟩ := setup_eq_ok_iff.mp translated
  exact (map_eq_of_forall₂ ((mapM_eq_ok_iff.mp datacenters).imp fun _ _ read =>
    (DatacenterEntry.datacenter_eq_ok_iff.mp read).2.name.symm)).symm

namespace Cli

/-! ### Whether it comes to a poll -/

/-- Why a call ends without a poll: the file is missing, cannot be loaded or makes no dashboard,
or the connection to a datacenter cannot be set up. -/
inductive Unready (around : Surroundings) (path : String) : Prop where
  | missing {reason : String} (vacant : around.files path = .vacant reason)
  | unloadable {flaw : ConfigFlaw}
      (refused : Config.ofFile around.files path around.environment = .error flaw)
  | untranslatable {config : Config} {flaw : ConfigFlaw}
      (loaded : Config.ofFile around.files path around.environment = .ok config)
      (refused : config.setup around.environment = .error flaw)
  | unconnectable {config : Config} {setup : Setup} {datacenter : Datacenter} {failure : Failure}
      (loaded : Config.ofFile around.files path around.environment = .ok config)
      (translated : config.setup around.environment = .ok setup)
      (member : datacenter ∈ setup.registry.datacenters)
      (refused : Backend.connect datacenter setup.policy around.files = .error failure)

/-- What a poll begins with. -/
structure Ready (around : Surroundings) (path : String) (config : Config) (setup : Setup)
    (fresh : Dashboard) : Prop where
  loaded : Config.ofFile around.files path around.environment = .ok config
  translated : config.setup around.environment = .ok setup
  built : Dashboard.build setup around.files = .ok fresh

theorem exists_ready_of_not_unready {around : Surroundings} {path : String}
    (fine : ¬ Unready around path) :
    ∃ config setup fresh, Ready around path config setup fresh := by
  cases loaded : Config.ofFile around.files path around.environment with
  | error flaw => exact absurd (.unloadable loaded) fine
  | ok config =>
    cases translated : config.setup around.environment with
    | error flaw => exact absurd (.untranslatable loaded translated) fine
    | ok setup =>
      obtain ⟨fresh, built⟩ := Dashboard.exists_build_of_connected
        fun datacenter member failure refused =>
          fine (.unconnectable loaded translated member refused)
      exact ⟨config, setup, fresh, loaded, translated, built⟩

theorem Ready.not_unready {around : Surroundings} {path : String} {config : Config} {setup : Setup}
    {fresh : Dashboard} (ready : Ready around path config setup fresh) :
    ¬ Unready around path := by
  have loaded := ready.loaded
  intro unready
  cases unready with
  | missing vacant =>
    rw [Config.ofFile, vacant] at loaded
    cases loaded
  | unloadable refused =>
    rw [refused] at loaded
    cases loaded
  | untranslatable other refused =>
    obtain rfl := Except.ok.inj (other.symm.trans loaded)
    rw [ready.translated] at refused
    cases refused
  | unconnectable other translated member refused =>
    obtain rfl := Except.ok.inj (other.symm.trans loaded)
    obtain rfl := Except.ok.inj (translated.symm.trans ready.translated)
    exact Dashboard.connected_of_build ready.built member _ refused

end Cli

/-! ### A small configuration file -/

namespace Sample

/-- A configuration file of one datacenter. -/
def configurationFile : List UInt8 :=
  Text.Utf8.encode "[[datacenters]]\nname = \"near\"\nurl = \"http://[::1]:4567\"\n"

theorem configurationFile_read : Config.ofBytes configurationFile [] = .ok (configuration []) :=
  eq_ok_of_toOption_eq_some (by decide +kernel)

/-- The file wherever it is looked for, in networks in which nobody answers. -/
def unanswered : Cli.Surroundings where
  environment := []
  home := none
  files := fun _ => .file (.ok configurationFile)
  networks := nobody
  now := ⟨0, 0⟩
  style := .standard
  terminal := false
  reports := 0

theorem ready_unanswered (path : String) :
    Cli.Ready unanswered path (configuration []) nearSetup
      ⟨nearSetup, nearSetup.backends, Snapshot.initial ["near"], false, false⟩ where
  loaded := configurationFile_read
  translated := Config.setup_eq_ok_iff.mpr
    ⟨by decide, by decide, datacenters_of_configuration [], rfl, rfl⟩
  built := rfl

theorem not_delivers_nobody (connection : Connection) (datacenter : String) (fetched : Fetched) :
    ¬ connection.Delivers (nobody datacenter) fetched := by
  intro delivers
  have checks := delivers.checks
  unfold Connection.list Connection.call at checks
  split at checks
  · cases checks
  · cases checks

end Sample

end FleetView
