/-
This file proves what the exit status of a poll is worth. The outcome is told three times: by
the health of each datacenter, by the counts, and by the status that the program exits with.
All of them are read off one snapshot, and that snapshot is what a single poll of the
configured datacenters makes of the answers; so they cannot disagree. Where it does not come
to a poll the program exits with a status of its own and writes nothing.
-/

import FleetView.Proofs.Counting
import FleetView.Proofs.Reports
import FleetView.Proofs.Starting

namespace FleetView.Cli

/-! ### How a call ends -/

/-- The only poll of a call. -/
def Surroundings.cycle (around : Surroundings) : Cycle := ⟨around.networks, around.now⟩

/-- A task that writes nothing and fails over the configuration. -/
def Done.Refused (done : Done) : Prop :=
  done.output = [] ∧ ∃ failure, done.failure = some failure ∧ failure.exitStatus = 3

theorem TaskFailure.exitStatus_ofConfig (flaw : ConfigFlaw) :
    (TaskFailure.ofConfig flaw).exitStatus = 3 := by
  cases flaw <;> rfl

section

variable {arguments : List String} {options : Options} {around : Surroundings} {task : Task}
  {format : OutputFormat}

theorem call_of_parse (asked : parse arguments around.environment = .ok (task, options)) :
    (call arguments around).exitStatus =
        ((execute task options around).failure.map (·.exitStatus)).getD 0 ∧
      (call arguments around).output = written (execute task options around).output ∧
      (call arguments around).complaint =
        (execute task options around).failure.map (·.complaint) := by
  unfold call
  rw [asked]
  exact ⟨rfl, rfl, rfl⟩

theorem load_eq_ok {config : Config} {setup : Setup}
    (loaded : Config.ofFile around.files (options.config.getD around.standardPath)
      around.environment = .ok config)
    (translated : config.setup around.environment = .ok setup) :
    load options around = .ok setup := by
  rw [load, loaded]
  exact mapError_eq_ok_iff.mpr translated

/-- Whatever keeps a call from polling, nothing is written, and the failure is one of those that
are about the configuration. -/
theorem execute_of_unready
    (unready : Unready around (options.config.getD around.standardPath)) :
    (execute (.poll format) options around).Refused := by
  have unloaded : ∀ flaw, load options around = .error (.ofConfig flaw) →
      (execute (.poll format) options around).Refused := by
    intro flaw refused
    rw [execute, refused]
    exact ⟨rfl, _, rfl, TaskFailure.exitStatus_ofConfig flaw⟩
  cases unready with
  | missing vacant =>
    refine unloaded (.noFile (options.config.getD around.standardPath)) ?_
    rw [load, Config.ofFile, vacant]
    rfl
  | @unloadable flaw refused =>
    refine unloaded flaw ?_
    rw [load, refused]
    rfl
  | @untranslatable config flaw loaded refused =>
    refine unloaded flaw ?_
    rw [load, loaded]
    show ((Config.setup _ _).mapError _) = _
    rw [refused]
    rfl
  | @unconnectable config setup datacenter failure loaded translated member refused =>
    rw [execute, load_eq_ok loaded translated]
    cases built : Dashboard.build setup around.files with
    | ok fresh => exact absurd refused (Dashboard.connected_of_build built member failure)
    | error failure =>
      dsimp only [perform]
      rw [built]
      obtain ⟨reason, rfl⟩ := Dashboard.exists_of_build_eq_error built
      exact ⟨rfl, _, rfl, rfl⟩

section

variable {config : Config} {setup : Setup} {fresh : Dashboard}
  (ready : Ready around (options.config.getD around.standardPath) config setup fresh)

include ready

theorem snapshot_of_ready :
    (fresh.pollOnce around.networks around.now).snapshot = setup.recounted [around.cycle] :=
  (Dashboard.run_snapshot ready.built [.poll around.networks around.now]).trans
    (setup.snapshotAfter_eq_recounted _)

/-- After a poll nothing is missing but the datacenters that are counted and not reachable, however
the report is shown. -/
theorem failure_of_ready :
    (execute (.poll format) options around).failure =
      shortfall (setup.recounted [around.cycle]).metrics := by
  rw [execute, load_eq_ok ready.loaded ready.translated]
  dsimp only [perform]
  rw [ready.built]
  dsimp only [pollTask]
  rw [snapshot_of_ready ready]

/-- After a poll the report is written. -/
theorem output_of_ready :
    (execute (.poll .json) options around).output =
      [(pollJson around.style (setup.recounted [around.cycle])).pretty] := by
  rw [execute, load_eq_ok ready.loaded ready.translated]
  dsimp only [perform]
  rw [ready.built]
  dsimp only [pollTask]
  rw [snapshot_of_ready ready]

end

end

theorem written_cons {block : String} (filled : block ≠ "") (blocks : List String) :
    written (block :: blocks) = block ++ "\n" ++ written blocks := by
  have kept : (block :: blocks).filter (· ≠ "") = block :: blocks.filter (· ≠ "") :=
    List.filter_cons_of_pos (decide_eq_true filled)
  rw [written, kept, List.map_cons, String.join_cons, written]

/-- A report is never empty, so it is written with a line end. -/
theorem written_pollJson (style : TimeStyle) (snapshot : Snapshot) :
    written [(pollJson style snapshot).pretty] = (pollJson style snapshot).pretty ++ "\n" := by
  have opened : (pollJson style snapshot).pretty ≠ "" := by
    intro nothing
    have chars := congrArg String.toList nothing
    rw [Json.pretty, String.toList_ofList] at chars
    exact absurd chars (List.cons_ne_nil _ _)
  exact (written_cons opened []).trans String.append_empty

/-- With every datacenter reachable a call ends well; else it ends with the number of those that
are not. -/
theorem ended_of_shortfall {ended : Ended} {snapshot : Snapshot}
    (exited : ended.exitStatus = ((shortfall snapshot.metrics).map (·.exitStatus)).getD 0)
    (complained : ended.complaint = (shortfall snapshot.metrics).map (·.complaint)) :
    ended.exitStatus = 0 ∧
        snapshot.metrics.datacentersReachable = snapshot.metrics.datacentersTotal ∨
      ended.exitStatus = 7 ∧
        snapshot.metrics.datacentersReachable ≠ snapshot.metrics.datacentersTotal ∧
        ∃ missing, 0 < missing ∧
          snapshot.metrics.datacentersReachable + missing = snapshot.metrics.datacentersTotal ∧
          ended.complaint =
            some (TaskFailure.unreachable missing snapshot.metrics.datacentersTotal).complaint := by
  have within := snapshot.metrics_agree.within
  by_cases fewer : snapshot.metrics.datacentersReachable < snapshot.metrics.datacentersTotal
  · rw [shortfall, if_pos fewer] at exited complained
    exact Or.inr ⟨exited, Nat.ne_of_lt fewer, _, Nat.sub_pos_of_lt fewer,
      Nat.add_sub_cancel' within, complained⟩
  · rw [shortfall, if_neg fewer] at exited
    exact Or.inl ⟨exited, Nat.le_antisymm within (Nat.not_lt.mp fewer)⟩

/-! ### The verdict -/

/-- What the report on a poll and the end of the call have to satisfy. Everything is said of what
the networks deliver: the datacenters and their health, the counts, the overall health, and the
exit status. -/
structure Ended.Reports (ended : Ended) (report : Json) (config : Config) (setup : Setup)
    (cycle : Cycle) (fine : Bool) (reachable total : Nat) : Prop where
  output : ended.output = report.pretty ++ "\n"
  readable : (∀ kind, setup.counted cycle kind < Word.count 64) → total < Word.count 64 →
    Document.read ended.output = ⟨Document.ofJson report, false⟩
  datacenters : ∃ members, report.under? ["health", "datacenters"] = some (.object members) ∧
    Bag.Sorted members ∧ (members.map Prod.fst).Perm (config.datacenters.map (·.name)) ∧
    ∀ datacenter ∈ setup.registry.datacenters, ∃ status, (datacenter.name, status) ∈ members ∧
      (status.field? "health" = some (.string "reachable") ↔ datacenter.Served setup.policy cycle)
  objects : report.under? ["metrics", "objects"] =
    some (.object (Kind.all.map fun kind => (kind.name, .nat (setup.counted cycle kind))))
  overall : report.under? ["health", "ok"] = some (.bool fine)
  reached : report.under? ["metrics", "datacenters_reachable"] = some (.nat reachable)
  polled : report.under? ["metrics", "datacenters_total"] = some (.nat total)
  every : total = config.datacenters.length
  within : reachable ≤ total
  status : ended.exitStatus = 0 ∨ ended.exitStatus = 7
  success : ended.exitStatus = 0 ↔ fine = true
  agreed : fine = true ↔ reachable = total
  served : reachable = total ↔
    ∀ datacenter ∈ setup.registry.datacenters, datacenter.Served setup.policy cycle
  shortfall : ended.exitStatus = 7 → ∃ missing, 0 < missing ∧ reachable + missing = total ∧
    ended.complaint = some (TaskFailure.unreachable missing total).complaint

/-- How a call that asks for one poll ends: with a status of its own and nothing written where it
does not come to the poll, and else with the report. -/
structure Ended.Judged (ended : Ended) (around : Surroundings) (path : String) : Prop where
  refused : ended.exitStatus = 3 ∧ ended.output = "" ↔ Unready around path
  reported : ¬ Unready around path → ∃ config setup,
    Config.ofFile around.files path around.environment = .ok config ∧
      config.setup around.environment = .ok setup ∧
      ∃ report fine reachable total,
        ended.Reports report config setup around.cycle fine reachable total

section

variable (style : TimeStyle) (setup : Setup) (cycle : Cycle)

theorem distinct_recounted :
    ((setup.recounted [cycle]).slices.map (·.status.name)).Nodup :=
  (setup.recounted_sound [cycle]).distinct

/-- The report names the datacenters of the registry. -/
theorem names_of_poll :
    ((statusMembers style (setup.recounted [cycle])).map Prod.fst).Perm setup.registry.names := by
  rw [← setup.recounted_names [cycle]]
  exact names_statusMembers style (distinct_recounted setup cycle)

/-- The report calls a datacenter reachable exactly when its network has delivered six lists. -/
theorem health_of_poll {datacenter : Datacenter}
    (member : datacenter ∈ setup.registry.datacenters) :
    ∃ status, (datacenter.name, status) ∈ statusMembers style (setup.recounted [cycle]) ∧
      (status.field? "health" = some (.string "reachable") ↔
        datacenter.Served setup.policy cycle) := by
  have listed : datacenter.recounted setup.policy [cycle] ∈ (setup.recounted [cycle]).slices :=
    List.mem_map_of_mem member
  have shown := mem_statusMembers style (distinct_recounted setup cycle) listed
  rw [datacenter.recounted_name] at shown
  exact ⟨_, shown,
    health_toJsonWith_iff.trans (datacenter.isReachable_recounted_iff setup.policy cycle)⟩

/-- The counts of the report are those of what the networks deliver. -/
theorem objects_of_poll :
    (pollJson style (setup.recounted [cycle])).under? ["metrics", "objects"] =
      some (.object (Kind.all.map fun kind => (kind.name, .nat (setup.counted cycle kind)))) := by
  have counted : (fun kind : Kind => (kind.name, Json.nat (setup.counted cycle kind))) =
      fun kind : Kind => (kind.name, Json.nat ((setup.recounted [cycle]).merged.count kind)) :=
    funext fun kind => by
      rw [Collections.count_eq, ← setup.length_list_recounted]
      rfl
  rw [counted]
  rfl

theorem total_of_poll :
    (setup.recounted [cycle]).metrics.datacentersTotal = setup.registry.names.length := by
  rw [← setup.recounted_names [cycle], List.length_map]
  rfl

theorem countable_of_poll (below : ∀ kind, setup.counted cycle kind < Word.count 64)
    (few : (setup.recounted [cycle]).metrics.datacentersTotal < Word.count 64) :
    Countable (setup.recounted [cycle]) where
  generation := by
    show 1 < Word.count 64
    decide
  objects := by
    intro kind
    rw [setup.length_list_recounted]
    exact below kind
  datacenters := few

end

section

variable {arguments : List String} {options : Options} {around : Surroundings}

theorem reports_of_ready {config : Config} {setup : Setup} {fresh : Dashboard}
    (asked : parse arguments around.environment = .ok (.poll .json, options))
    (ready : Ready around (options.config.getD around.standardPath) config setup
      fresh) :
    (call arguments around).Reports
      (pollJson around.style (setup.recounted [around.cycle])) config setup around.cycle
      (setup.recounted [around.cycle]).healthReport.ok
      (setup.recounted [around.cycle]).metrics.datacentersReachable
      (setup.recounted [around.cycle]).metrics.datacentersTotal := by
  obtain ⟨exited, output, complained⟩ := call_of_parse asked
  rw [output_of_ready ready, written_pollJson] at output
  rw [failure_of_ready ready] at exited complained
  have named := Config.names_of_setup ready.translated
  have agreed := Snapshot.healthReport_ok_iff
    (distinct_recounted setup around.cycle)
  have ending := ended_of_shortfall exited complained
  exact
    { output
      readable := fun below few => output ▸ read_pollJson _ (countable_of_poll _ _ below few)
      datacenters := ⟨_, pollJson_datacenters _ _, sorted_statusMembers _ _,
        named ▸ names_of_poll _ _ _,
        fun datacenter member => health_of_poll _ _ _ member⟩
      objects := objects_of_poll _ _ _
      overall := rfl
      reached := rfl
      polled := rfl
      every := by rw [total_of_poll, named, List.length_map]
      within := (Snapshot.metrics_agree _).within
      status := ending.imp And.left And.left
      success := by
        rw [agreed]
        rcases ending with ⟨zero, same⟩ | ⟨seven, other, -⟩
        · exact iff_of_true zero same
        · exact iff_of_false (seven ▸ nofun) other
      agreed
      served := setup.reachable_eq_total_iff _
      shortfall := by
        intro seven
        rcases ending with ⟨zero, -⟩ | ⟨-, -, missing⟩
        · rw [zero] at seven
          cases seven
        · exact missing }

/-- Calls that ask for one poll and its report are judged alike, however they ask. -/
theorem judged_of_parse
    (asked : parse arguments around.environment = .ok (.poll .json, options)) :
    (call arguments around).Judged around
      (options.config.getD around.standardPath) where
  refused := by
    constructor
    · rintro ⟨three, -⟩
      by_contra fine
      obtain ⟨config, setup, fresh, ready⟩ := exists_ready_of_not_unready fine
      rcases (reports_of_ready asked ready).status with zero | seven
      · rw [three] at zero
        cases zero
      · rw [three] at seven
        cases seven
    · intro unready
      obtain ⟨exited, written, -⟩ := call_of_parse asked
      obtain ⟨blocks, failure, failed, three⟩ := execute_of_unready unready
      rw [failed] at exited
      rw [blocks] at written
      exact ⟨exited.trans three, written⟩
  reported := by
    intro fine
    obtain ⟨config, setup, fresh, ready⟩ := exists_ready_of_not_unready fine
    exact ⟨config, setup, ready.loaded, ready.translated, _, _, _, _, reports_of_ready asked ready⟩

end

/-! ### Asking for the report -/

theorem close_eq_ok {environment : Environment} {given settled : Given}
    (named : environment.get? configVariable ≠ some "") (fine : given.settle = .ok settled) :
    close environment given = .ok settled :=
  bind_eq_ok_iff.mpr ⟨settled, fine, if_neg fun both => named both.2⟩

theorem close_eq_error {environment : Environment} {given settled : Given}
    (misnamed : environment.get? configVariable = some "") (fine : given.settle = .ok settled)
    (unnamed : settled.config = none) :
    close environment given = .error (.flaw (.badValue Flag.config.name "")) := by
  rw [close, fine]
  exact if_pos ⟨unnamed, misnamed⟩

/-- The usual way to ask, which is understood unless the variable names the file without a
character. -/
theorem parse_poll_json {environment : Environment}
    (named : environment.get? configVariable ≠ some "") :
    parse ["poll", "-o", "json"] environment =
      .ok (.poll .json, ⟨environment.get? configVariable, 0, false, .auto⟩) := by
  have closed : close environment ⟨none, none, none, 0, false, some (.output, "json")⟩ =
      .ok ⟨none, none, some .json, 0, false, none⟩ := close_eq_ok named rfl
  have behind : readBehind .poll environment 3 .nothing ["-o", "json"] =
      .ok ⟨none, none, some .json, 0, false, none⟩ := closed
  have read : readBefore environment 4 .nothing ["poll", "-o", "json"] =
      .ok (.nothing, .poll, ⟨none, none, some .json, 0, false, none⟩) :=
    bind_eq_ok_iff.mpr ⟨_, behind, bind_eq_ok_iff.mpr ⟨_, close_eq_ok named rfl, rfl⟩⟩
  exact bind_eq_ok_iff.mpr ⟨_, read, rfl⟩

/-- Where the variable names the file without a character, the arguments are refused. -/
theorem parse_poll_json_of_misnamed {environment : Environment}
    (misnamed : environment.get? configVariable = some "") :
    parse ["poll", "-o", "json"] environment =
      .error (.flaw (.badValue Flag.config.name "")) := by
  have behind : readBehind .poll environment 3 .nothing ["-o", "json"] =
      .error (.flaw (.badValue Flag.config.name "")) :=
    @close_eq_error _ ⟨none, none, none, 0, false, some (.output, "json")⟩ _ misnamed rfl rfl
  have read : readBefore environment 4 .nothing ["poll", "-o", "json"] =
      .error (.flaw (.badValue Flag.config.name "")) :=
    congrArg (fun behind => behind >>= _) behind
  exact congrArg (fun read => read >>= _) read

/-- Whatever the files, the environment and the networks are, a poll whose report is asked for ends
either without one, because there is nothing that can be polled, or with a report, counts and an
exit status that agree on what the networks deliver. Where the variable names the file without a
character, the arguments are refused before any file is looked for, and nothing is written. -/
theorem poll_judged (around : Surroundings) :
    (around.environment.get? configVariable ≠ some "" →
      (call ["poll", "-o", "json"] around).Judged around
        ((around.environment.get? configVariable).getD around.standardPath)) ∧
    (∀ arguments options, parse arguments around.environment = .ok (.poll .json, options) →
      (call arguments around).Judged around
        (options.config.getD around.standardPath)) ∧
    (around.environment.get? configVariable = some "" →
      (call ["poll", "-o", "json"] around).exitStatus = 2 ∧
        (call ["poll", "-o", "json"] around).output = "") := by
  refine ⟨fun named => judged_of_parse (parse_poll_json named),
    fun _ _ asked => judged_of_parse asked, fun misnamed => ?_⟩
  unfold call
  rw [parse_poll_json_of_misnamed misnamed]
  exact ⟨rfl, rfl⟩

/-- The one datacenter of a file is configured and does not answer. With the variable set to nothing
it is not asked. -/
theorem poll_judged_unanswered :
    Sample.unanswered.environment.get? configVariable ≠ some "" ∧
      (call ["poll", "-o", "json"] Sample.unanswered).exitStatus = 7 ∧
      (call ["poll", "-o", "json"] { Sample.unanswered with
        environment := [(configVariable, "")] }).exitStatus = 2 := by
  have named : Sample.unanswered.environment.get? configVariable ≠ some "" := nofun
  refine ⟨named, ?_, ((poll_judged _).2.2 rfl).1⟩
  obtain ⟨config, setup, loaded, translated, report, fine, reachable, total, reports⟩ :=
    ((poll_judged Sample.unanswered).1 named).reported (Sample.ready_unanswered _).not_unready
  refine reports.status.resolve_left fun zero => ?_
  have every := reports.served.mp (reports.agreed.mp (reports.success.mp zero))
  have one := Config.names_of_setup translated
  rw [← Except.ok.inj (Sample.configurationFile_read.symm.trans loaded)] at one
  obtain ⟨datacenter, member, -⟩ := List.exists_of_mem_map
    (one ▸ List.mem_singleton_self "near" : "near" ∈ setup.registry.names)
  obtain ⟨fetched, delivers⟩ := every datacenter member
  exact Sample.not_delivers_nobody (datacenter.backend setup.policy).connection datacenter.name
    fetched delivers

/-- A variable that names the file without a character makes the arguments senseless. The call then
ends with a status of its own, although there is no file of that name. -/
theorem poll_misnamed :
    Unready { Sample.unanswered with
      environment := [(configVariable, "")], files := fun _ => .vacant "" } "" ∧
    (call ["poll", "-o", "json"] { Sample.unanswered with
      environment := [(configVariable, "")], files := fun _ => .vacant "" }).exitStatus = 2 ∧
    (call ["poll", "-o", "json"] { Sample.unanswered with
      environment := [(configVariable, "")], files := fun _ => .vacant "" }).output = "" :=
  ⟨.missing rfl, rfl, rfl⟩

end FleetView.Cli
