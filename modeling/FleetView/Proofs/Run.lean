/-
This file says what a run of a dashboard is: it is built, and then it is used in
any order. Reads and commands leave it as it is; polls, alone or at the start of
the polling in the background, replace its snapshot. So the snapshot that a run
ends with is the one that its poll cycles lead to, whatever happens in between.
-/

import Mathlib
import FleetView.Dashboard.Basic

namespace FleetView

/-- One use of a dashboard. -/
inductive Use where
  | poll (networks : Networks) (now : Instant)
  | start (networks : Networks) (now : Instant)
  | shutdown
  /-- Any read: it looks at the snapshot. -/
  | read
  | dispatch (command : Command) (network : Network)
  | execute (identity : Identity) (command : Command) (network : Network)

/-- One poll of all datacenters: what their requests are answered, and when it ends. -/
structure Cycle where
  networks : Networks
  ended : Instant

/-- The poll that a use brings with it, if any. -/
def Use.cycle? : Use → Option Cycle
  | .poll networks now | .start networks now => some ⟨networks, now⟩
  | .shutdown | .read | .dispatch _ _ | .execute _ _ _ => none

/-- The polls of a run, in their order. -/
def cycles (uses : List Use) : List Cycle := uses.filterMap Use.cycle?

namespace Dashboard

/-- The dashboard after a use. Reads and commands answer their caller and change nothing. -/
def after (dashboard : Dashboard) : Use → Dashboard
  | .poll networks now => dashboard.pollOnce networks now
  | .start networks now => dashboard.start networks now
  | .shutdown => dashboard.shutdown
  | .read | .dispatch _ _ | .execute _ _ _ => dashboard

/-- The dashboard after some uses. -/
def run (dashboard : Dashboard) (uses : List Use) : Dashboard := uses.foldl after dashboard

/-- A dashboard that some run leads to, from a registry and a policy. -/
def Reachable (setup : Setup) (dashboard : Dashboard) : Prop :=
  ∃ files fresh uses, build setup files = .ok fresh ∧ fresh.run uses = dashboard

end Dashboard

namespace Setup

/-- The datacenters with their connections. -/
def backends (setup : Setup) : List Backend :=
  setup.registry.datacenters.map fun datacenter => datacenter.backend setup.policy

/-- The snapshot that some poll cycles lead to. -/
def snapshotAfter (setup : Setup) (cycles : List Cycle) : Snapshot :=
  cycles.foldl
    (fun previous cycle => previous.next setup.backends setup.policy cycle.networks cycle.ended)
    (Snapshot.initial setup.registry.names)

theorem snapshotAfter_concat (setup : Setup) (earlier : List Cycle) (last : Cycle) :
    setup.snapshotAfter (earlier ++ [last]) =
      (setup.snapshotAfter earlier).next setup.backends setup.policy last.networks last.ended :=
  List.foldl_concat _ _ _ _

end Setup

/-! ### Building -/

theorem Backend.connect_eq {datacenter : Datacenter} {policy : Policy} {files : Files}
    {backend : Backend} (connected : connect datacenter policy files = .ok backend) :
    backend = datacenter.backend policy := by
  unfold connect at connected
  split at connected
  · cases connected
  · exact (Except.ok.inj connected).symm

theorem Backend.mapM_connect_eq {datacenters : List Datacenter} {policy : Policy} {files : Files}
    {backends : List Backend}
    (connected : (datacenters.mapM fun datacenter => connect datacenter policy files) =
      .ok backends) :
    backends = datacenters.map fun datacenter => datacenter.backend policy := by
  induction datacenters generalizing backends with
  | nil => exact (Except.ok.inj connected).symm
  | cons datacenter rest inductionHypothesis =>
    rw [List.mapM_cons] at connected
    cases first : connect datacenter policy files with
    | error failure =>
      rw [first] at connected
      cases connected
    | ok backend =>
      cases others : rest.mapM fun datacenter => connect datacenter policy files with
      | error failure =>
        rw [first, others] at connected
        cases connected
      | ok further =>
        rw [first, others] at connected
        rw [← Except.ok.inj connected, List.map_cons, ← connect_eq first,
          ← inductionHypothesis others]

namespace Dashboard

/-- A dashboard that has been built has the connections of its datacenters and knows nothing
yet. -/
theorem build_eq {setup : Setup} {files : Files} {fresh : Dashboard}
    (built : build setup files = .ok fresh) :
    fresh = ⟨setup, setup.backends, Snapshot.initial setup.registry.names, false, false⟩ := by
  unfold build at built
  cases connected : setup.registry.datacenters.mapM fun datacenter =>
      Backend.connect datacenter setup.policy files with
  | error failure =>
    rw [connected] at built
    cases built
  | ok backends =>
    rw [connected] at built
    rw [← Except.ok.inj built, Backend.mapM_connect_eq connected]
    rfl

/-! ### Using -/

/-- The snapshot of a poll is always taken up, since its number is the next one. -/
theorem publish_next (previous : Snapshot) (backends : List Backend) (policy : Policy)
    (networks : Networks) (now : Instant) :
    previous.publish (previous.next backends policy networks now) =
      previous.next backends policy networks now :=
  if_neg (Nat.not_succ_le_self _)

theorem start_snapshot (dashboard : Dashboard) (networks : Networks) (now : Instant) :
    (dashboard.start networks now).snapshot = (dashboard.pollOnce networks now).snapshot := by
  unfold start
  split <;> rfl

/-- A use has no influence on the setup and the connections, and replaces the snapshot only by
that of a poll. -/
theorem after_eq (dashboard : Dashboard) (use : Use) :
    (dashboard.after use).setup = dashboard.setup ∧
      (dashboard.after use).backends = dashboard.backends ∧
      (dashboard.after use).snapshot =
        use.cycle?.elim dashboard.snapshot fun cycle =>
          dashboard.snapshot.next dashboard.backends dashboard.setup.policy cycle.networks
            cycle.ended := by
  cases use with
  | poll networks now => exact ⟨rfl, rfl, publish_next _ _ _ _ _⟩
  | start networks now =>
    refine ⟨?_, ?_, (start_snapshot _ _ _).trans (publish_next _ _ _ _ _)⟩
    · show (dashboard.start networks now).setup = dashboard.setup
      unfold start
      split <;> rfl
    · show (dashboard.start networks now).backends = dashboard.backends
      unfold start
      split <;> rfl
  | shutdown => exact ⟨rfl, rfl, rfl⟩
  | read => exact ⟨rfl, rfl, rfl⟩
  | dispatch command network => exact ⟨rfl, rfl, rfl⟩
  | execute identity command network => exact ⟨rfl, rfl, rfl⟩

/-- A run ends with the setup and the connections it began with, and with the snapshot that its
polls make out of the first one. -/
theorem run_eq (dashboard : Dashboard) (uses : List Use) :
    (dashboard.run uses).setup = dashboard.setup ∧
      (dashboard.run uses).backends = dashboard.backends ∧
      (dashboard.run uses).snapshot =
        (cycles uses).foldl
          (fun previous cycle =>
            previous.next dashboard.backends dashboard.setup.policy cycle.networks cycle.ended)
          dashboard.snapshot := by
  induction uses generalizing dashboard with
  | nil => exact ⟨rfl, rfl, rfl⟩
  | cons use rest inductionHypothesis =>
    obtain ⟨setup, backends, snapshot⟩ := after_eq dashboard use
    obtain ⟨restSetup, restBackends, restSnapshot⟩ := inductionHypothesis (dashboard.after use)
    refine ⟨restSetup.trans setup, restBackends.trans backends, ?_⟩
    show ((dashboard.after use).run rest).snapshot = _
    rw [restSnapshot, setup, backends, snapshot, cycles, cycles]
    cases polled : use.cycle? with
    | none => rw [List.filterMap_cons_none polled, Option.elim_none]
    | some cycle => rw [List.filterMap_cons_some polled, Option.elim_some, List.foldl_cons]

/-- The snapshot of a run is the one that its cycles lead to. -/
theorem run_snapshot {setup : Setup} {files : Files} {fresh : Dashboard}
    (built : build setup files = .ok fresh) (uses : List Use) :
    (fresh.run uses).snapshot = setup.snapshotAfter (cycles uses) := by
  rw [(run_eq fresh uses).2.2, build_eq built]
  rfl

namespace Reachable

variable {setup : Setup} {dashboard : Dashboard}

theorem setup_eq (reached : Reachable setup dashboard) : dashboard.setup = setup := by
  obtain ⟨files, fresh, uses, built, rfl⟩ := reached
  rw [(run_eq fresh uses).1, build_eq built]

theorem backends_eq (reached : Reachable setup dashboard) :
    dashboard.backends = setup.backends := by
  obtain ⟨files, fresh, uses, built, rfl⟩ := reached
  rw [(run_eq fresh uses).2.1, build_eq built]

theorem snapshot_eq (reached : Reachable setup dashboard) :
    ∃ cycles, dashboard.snapshot = setup.snapshotAfter cycles := by
  obtain ⟨files, fresh, uses, built, rfl⟩ := reached
  exact ⟨cycles uses, run_snapshot built uses⟩

end Reachable

end Dashboard

/-! ### A small setup -/

namespace Sample

/-- A datacenter of the name of east. -/
def east : Datacenter :=
  { name := "east"
    url := ⟨"http", some ⟨"", none, some (.domain "east"), some 4567⟩, .segments [""], none, none⟩
    credentials := none
    tls := .system
    timeout := none }

/-- The datacenter alone, under the usual rules. -/
def setup : Setup :=
  ⟨⟨[east], [], by decide +kernel⟩,
    ⟨.ofSeconds 10, .ofSeconds 5, .ofSeconds 10, false, false, true⟩⟩

/-- The dashboard over it, before the first poll. -/
def fresh : Dashboard := ⟨setup, setup.backends, Snapshot.initial ["east"], false, false⟩

theorem built (files : Files) : Dashboard.build setup files = .ok fresh := rfl

theorem reachable_fresh : Dashboard.Reachable setup fresh :=
  ⟨fun _ => .vacant "", fresh, [], built _, rfl⟩

/-- A silence for a subscription, as it is reported. -/
def silence (id subscription : String) : String :=
  "\x7b\"id\":\"" ++ id ++ "\",\"subscription\":\"" ++ subscription ++ "\"\x7d"

/-- The report of one silence. -/
def oneSilence : String := "[" ++ silence "windows:*" "windows" ++ "]"

/-- A report that repeats its first id. -/
def repeatedSilence : String :=
  "[" ++ silence "windows:*" "windows" ++ "," ++ silence "windows:*" "linux" ++ "]"

/-- Networks that answer with these silences and nothing else. -/
def answering (silences : String) : Networks := fun _ request =>
  .reply 200 (Text.Utf8.encode
    (if request.url.path = .segments ["silenced"] then silences else "[]"))

/-- Networks in which nobody answers. -/
def nobody : Networks := fun _ _ => .closed

/-- The dashboard after one poll that finds these silences. -/
def polled (silences : String) : Dashboard := fresh.run [.poll (answering silences) ⟨1, 0⟩]

theorem reachable_polled (silences : String) : Dashboard.Reachable setup (polled silences) :=
  ⟨fun _ => .vacant "", fresh, _, built _, rfl⟩

end Sample

end FleetView
