/-
This file compares a check of a configuration with a poll. Both begin by loading the
configuration and translating it, but only the poll goes on to set up a connection to each
datacenter, for which a certificate may have to be read. So whatever a poll can start with
is approved by a check. The converse holds exactly where every certificate that is relied
on can be read: a configuration that names any other certificate is approved as well,
although a poll refuses it as invalid.
-/

import FleetView.Proofs.Acceptance
import FleetView.Proofs.Verdict

namespace FleetView

/-! ### Certificates that are relied on -/

/-- The certificate that an entry relies on can be read, if it relies on one at all. -/
def DatacenterEntry.Trusting (entry : DatacenterEntry) (files : Files) : Prop :=
  entry.insecure = false → ∀ path, entry.certificate = some path →
    ∃ bytes, (files path).content = .ok bytes ∧ Certificate.isReadable bytes = true

theorem DatacenterEntry.Certified.refusal?_eq_none_iff {entry : DatacenterEntry} {tls : Tls}
    (certified : entry.Certified tls) {files : Files} :
    tls.refusal? files = none ↔ entry.Trusting files := by
  cases certified with
  | insecure lax => exact iff_of_true rfl fun strict => nomatch lax.symm.trans strict
  | system strict unnamed => exact iff_of_true rfl fun _ _ named => nomatch unnamed.symm.trans named
  | @ca path strict named =>
    have only : entry.Trusting files ↔
        ∃ bytes, (files path).content = .ok bytes ∧ Certificate.isReadable bytes = true := by
      simp only [Trusting, strict, named, true_imp_iff, Option.some.injEq, forall_eq']
    rw [only, Tls.refusal?]
    cases (files path).content with
    | error reason => exact iff_of_false nofun fun ⟨_, clash, _⟩ => nomatch clash
    | ok bytes =>
      dsimp only
      simp only [Except.ok.injEq, exists_eq_left']
      split
      · rename_i readable
        exact iff_of_true rfl readable
      · rename_i unreadable
        exact iff_of_false nofun unreadable

/-- A connection can be set up exactly where nothing speaks against how certificates are checked. -/
theorem Backend.connect_ne_error_iff {datacenter : Datacenter} {policy : Policy} {files : Files} :
    (∀ failure, connect datacenter policy files ≠ .error failure) ↔
      datacenter.tls.refusal? files = none := by
  rw [connect]
  cases datacenter.tls.refusal? files with
  | none => exact iff_of_true nofun rfl
  | some error => exact iff_of_false (fun fine => fine _ rfl) nofun

/-- There is a dashboard over a configuration exactly where every certificate can be read. -/
theorem Config.exists_build_iff {config : Config} {environment : Environment} {setup : Setup}
    (translated : config.setup environment = .ok setup) {files : Files} :
    (∃ fresh, Dashboard.build setup files = .ok fresh) ↔
      ∀ entry ∈ config.datacenters, entry.Trusting files := by
  have makes := (Config.makes_of_setup_eq_ok translated).datacenters
  constructor
  · rintro ⟨fresh, built⟩ entry member
    obtain ⟨datacenter, listed, made⟩ := exists_left_of_forall₂ makes.flip member
    exact made.tls.refusal?_eq_none_iff.mp
      (Backend.connect_ne_error_iff.mp (Dashboard.connected_of_build built listed))
  · refine fun trusting => Dashboard.exists_build_of_connected fun datacenter listed => ?_
    obtain ⟨entry, member, made⟩ := exists_left_of_forall₂ makes listed
    exact Backend.connect_ne_error_iff.mpr
      (made.tls.refusal?_eq_none_iff.mpr (trusting entry member))

namespace Cli

/-! ### Approved and started -/

/-- The configuration in a file can be loaded and translated. -/
def Usable (around : Surroundings) (path : String) : Prop :=
  ∃ config setup, Config.ofFile around.files path around.environment = .ok config ∧
    config.setup around.environment = .ok setup

/-- The certificates that the configuration in a file relies on can be read, if it can be used. -/
def Trusted (around : Surroundings) (path : String) : Prop :=
  ∀ config setup, Config.ofFile around.files path around.environment = .ok config →
    config.setup around.environment = .ok setup →
      ∀ entry ∈ config.datacenters, entry.Trusting around.files

/-- What a check of the configuration in a file and a poll with it say of each other. -/
structure Compared (checked polled : Ended) (around : Surroundings) (path : String) : Prop where
  approved : checked.exitStatus = 0 ↔ Usable around path
  refused : polled.exitStatus = 3 ↔ Unready around path
  started : polled.exitStatus ≠ 3 → checked.exitStatus = 0
  agreed : (checked.exitStatus = 0 ↔ polled.exitStatus ≠ 3) ↔ Trusted around path

section

variable {arguments : List String} {options : Options} {around other : Surroundings}
  {format : OutputFormat} {path : String}

theorem not_unready_iff : ¬ Unready around path ↔ Usable around path ∧ Trusted around path := by
  constructor
  · intro fine
    obtain ⟨config, setup, fresh, ready⟩ := exists_ready_of_not_unready fine
    refine ⟨⟨config, setup, ready.loaded, ready.translated⟩, fun again _ loaded _ => ?_⟩
    obtain rfl := Except.ok.inj (ready.loaded.symm.trans loaded)
    exact (Config.exists_build_iff ready.translated).mp ⟨fresh, ready.built⟩
  · rintro ⟨⟨config, setup, loaded, translated⟩, trusted⟩
    obtain ⟨fresh, built⟩ :=
      (Config.exists_build_iff translated).mpr (trusted config setup loaded translated)
    exact (Ready.mk loaded translated built).not_unready

/-- Only the environment and the files decide whether there is anything to poll. -/
theorem unready_congr (environment : other.environment = around.environment)
    (files : other.files = around.files) : Unready other path ↔ Unready around path := by
  rw [← not_iff_not, not_unready_iff, not_unready_iff, Usable, Trusted, environment, files]
  rfl

theorem load_eq_ok_iff {setup : Setup} :
    load options around = .ok setup ↔
      ∃ config, Config.ofFile around.files
          (options.config.getD around.standardPath) around.environment =
            .ok config ∧ config.setup around.environment = .ok setup := by
  refine ⟨fun done => ?_, fun ⟨config, loaded, translated⟩ => load_eq_ok loaded translated⟩
  exact bind_eq_ok_iff.mp (mapError_eq_ok_iff.mp done)

theorem exitStatus_of_load_eq_error {failure : TaskFailure}
    (refused : load options around = .error failure) : failure.exitStatus = 3 := by
  obtain ⟨flaw, rfl⟩ : ∃ flaw, failure = .ofConfig flaw := by
    rw [load] at refused
    cases result : (Config.ofFile around.files
      (options.config.getD around.standardPath) around.environment).bind
        fun config => config.setup around.environment with
    | ok setup =>
      rw [result] at refused
      cases refused
    | error flaw =>
      rw [result] at refused
      exact ⟨flaw, (Except.error.inj refused).symm⟩
  exact TaskFailure.exitStatus_ofConfig flaw

/-- A check approves what can be loaded and translated. -/
theorem check_eq_zero_iff
    (asked : parse arguments around.environment = .ok (.checkConfig, options)) :
    (call arguments around).exitStatus = 0 ↔
      Usable around (options.config.getD around.standardPath) := by
  obtain ⟨exited, -⟩ := call_of_parse asked
  rw [exited, execute]
  cases loaded : load options around with
  | error failure =>
    have three := exitStatus_of_load_eq_error loaded
    refine iff_of_false ?_ ?_
    · show failure.exitStatus ≠ 0
      rw [three]
      decide
    · rintro ⟨config, setup, usable⟩
      cases loaded.symm.trans (load_eq_ok_iff.mpr ⟨config, usable⟩)
  | ok setup =>
    obtain ⟨config, usable⟩ := load_eq_ok_iff.mp loaded
    exact iff_of_true rfl ⟨config, setup, usable⟩

theorem exitStatus_shortfall_ne (metrics : Metrics) :
    ((shortfall metrics).map (·.exitStatus)).getD 0 ≠ 3 := by
  unfold shortfall
  split
  · exact nofun
  · exact nofun

/-- A poll is refused over the configuration exactly where there is nothing to poll, whatever the
networks do and however the report is shown. -/
theorem poll_eq_three_iff
    (asked : parse arguments around.environment = .ok (.poll format, options)) :
    (call arguments around).exitStatus = 3 ↔
      Unready around (options.config.getD around.standardPath) := by
  obtain ⟨exited, -⟩ := call_of_parse asked
  rw [exited]
  constructor
  · intro three
    by_contra fine
    obtain ⟨config, setup, fresh, ready⟩ := exists_ready_of_not_unready fine
    rw [failure_of_ready ready] at three
    exact exitStatus_shortfall_ne _ three
  · intro unready
    obtain ⟨-, failure, failed, three⟩ := execute_of_unready unready
    rw [failed]
    exact three

end

/-! ### Asking by one word -/

section

variable {environment : Environment} (task : TaskName)

/-- A task that is asked for without any option has the usual ones. -/
theorem parse_text (named : environment.get? configVariable ≠ some "") :
    parse [task.text] environment =
      .ok (task.task .table, ⟨environment.get? configVariable, 0, false, .auto⟩) := by
  have closed : close environment .nothing = .ok .nothing := close_eq_ok named rfl
  have behind : readBehind task environment 1 .nothing [] = .ok .nothing := closed
  have read : readBefore environment 2 .nothing [task.text] = .ok (.nothing, task, .nothing) := by
    cases task <;> exact bind_eq_ok_iff.mpr ⟨_, behind, bind_eq_ok_iff.mpr ⟨_, closed, rfl⟩⟩
  exact bind_eq_ok_iff.mpr ⟨_, read, rfl⟩

/-- A variable that names the file without a character makes the call senseless. -/
theorem parse_text_of_misnamed (misnamed : environment.get? configVariable = some "") :
    parse [task.text] environment = .error (.flaw (.badValue Flag.config.name "")) := by
  have behind : readBehind task environment 1 .nothing [] =
      .error (.flaw (.badValue Flag.config.name "")) :=
    @close_eq_error _ .nothing _ misnamed rfl rfl
  have read : readBefore environment 2 .nothing [task.text] =
      .error (.flaw (.badValue Flag.config.name "")) := by
    cases task <;> exact congrArg (fun behind => behind >>= _) behind
  exact congrArg (fun read => read >>= _) read

end

/-! ### The comparison -/

section

variable {around pollAround : Surroundings}
  (environment : pollAround.environment = around.environment)
  (home : pollAround.home = around.home) (files : pollAround.files = around.files)

include environment home in
theorem standardPath_congr : pollAround.standardPath = around.standardPath := by
  rw [Surroundings.standardPath, environment, home]
  rfl

include environment home files

theorem compared_of_parse {arguments pollArguments : List String} {options pollOptions : Options}
    {format : OutputFormat}
    (asked : parse arguments around.environment = .ok (.checkConfig, options))
    (pollAsked : parse pollArguments around.environment = .ok (.poll format, pollOptions))
    (same : pollOptions.config.getD around.standardPath =
      options.config.getD around.standardPath) :
    Compared (call arguments around) (call pollArguments pollAround) around
      (options.config.getD around.standardPath) := by
  have approved := check_eq_zero_iff asked
  have refused := poll_eq_three_iff (environment ▸ pollAsked)
  rw [standardPath_congr environment home, same, unready_congr environment files] at refused
  have started : (call pollArguments pollAround).exitStatus ≠ 3 ↔
      Usable around (options.config.getD around.standardPath) ∧
        Trusted around (options.config.getD around.standardPath) :=
    (not_congr refused).trans not_unready_iff
  refine ⟨approved, refused, fun fine => approved.mpr (started.mp fine).1, ?_⟩
  rw [approved, started, iff_self_and]
  exact ⟨fun trusted config setup loaded translated =>
    trusted ⟨config, setup, loaded, translated⟩ config setup loaded translated,
    fun trusted _ => trusted⟩

/-- A check of a configuration and a poll with it, in one environment and with the same files,
agree on whether the configuration can be used exactly where each certificate that it relies on can
be read; whatever a poll starts with is approved in any case. What the networks do, how the two are
asked and how the poll is reported makes no difference, as long as the calls make sense. -/
theorem check_rehearses_iff :
    (((call ["check-config"] around).exitStatus = 0 ↔
        (call ["poll"] pollAround).exitStatus ≠ 3) ↔
      around.environment.get? configVariable ≠ some "" ∧
        Trusted around
          ((around.environment.get? configVariable).getD around.standardPath)) ∧
    ∀ arguments pollArguments options pollOptions format,
      parse arguments around.environment = .ok (.checkConfig, options) →
      parse pollArguments around.environment = .ok (.poll format, pollOptions) →
      pollOptions.config.getD around.standardPath =
        options.config.getD around.standardPath →
      Compared (call arguments around) (call pollArguments pollAround) around
        (options.config.getD around.standardPath) := by
  refine ⟨?_, fun _ _ _ _ _ => compared_of_parse environment home files⟩
  by_cases misnamed : around.environment.get? configVariable = some ""
  · have senseless : ∀ (task : TaskName) (around : Surroundings),
        around.environment.get? configVariable = some "" →
          (call [task.text] around).exitStatus = 2 := by
      intro task around misnamed
      unfold call
      rw [parse_text_of_misnamed task misnamed]
    have checked : (call ["check-config"] around).exitStatus = 2 :=
      senseless .checkConfig around misnamed
    have polled : (call ["poll"] pollAround).exitStatus = 2 :=
      senseless .poll pollAround (environment ▸ misnamed)
    rw [checked, polled]
    exact iff_of_false (fun agree => absurd (agree.mpr (by decide)) (by decide))
      fun both => both.1 misnamed
  · rw [and_iff_right misnamed]
    exact (compared_of_parse environment home files (parse_text .checkConfig misnamed)
      (parse_text .poll misnamed) rfl).agreed

end

end Cli

namespace Sample

/-- A configuration file of one datacenter, whose certificate is to be checked against one in
another file. -/
def pinnedFile : List UInt8 :=
  Text.Utf8.encode ("[[datacenters]]\nname = \"near\"\nurl = \"http://[::1]:4567\"\n" ++
    "ca_cert = \"/etc/ca.pem\"\n")

/-- The file wherever it is looked for, without that other file. -/
def pinned : Cli.Surroundings :=
  { unanswered with
    files := fun path =>
      if path = "/etc/ca.pem" then .vacant "no such file" else .file (.ok pinnedFile) }

end Sample

namespace Cli

/-- A datacenter without a certificate of its own is approved, and a poll starts later on. -/
theorem check_rehearses_iff_unanswered :
    { Sample.unanswered with now := ⟨1, 0⟩ }.environment = Sample.unanswered.environment ∧
      { Sample.unanswered with now := ⟨1, 0⟩ }.home = Sample.unanswered.home ∧
      { Sample.unanswered with now := ⟨1, 0⟩ }.files = Sample.unanswered.files ∧
      (call ["check-config"] Sample.unanswered).exitStatus = 0 ∧
      (call ["poll"] { Sample.unanswered with now := ⟨1, 0⟩ }).exitStatus ≠ 3 := by
  have usable : Usable Sample.unanswered Sample.unanswered.standardPath :=
    ⟨_, _, (Sample.ready_unanswered _).loaded, (Sample.ready_unanswered "").translated⟩
  have trusted : Trusted Sample.unanswered Sample.unanswered.standardPath := by
    intro config setup loaded _ entry member _ path named
    rw [← Except.ok.inj ((Sample.ready_unanswered _).loaded.symm.trans loaded)] at member
    rw [List.mem_singleton.mp member] at named
    cases named
  obtain ⟨agreed, compared⟩ := @check_rehearses_iff Sample.unanswered
    { Sample.unanswered with now := ⟨1, 0⟩ } rfl rfl rfl
  have approved := (compared ["check-config"] ["poll"] _ _ _ (parse_text .checkConfig nofun)
    (parse_text .poll nofun) rfl).approved.mpr usable
  exact ⟨rfl, rfl, rfl, approved, (agreed.mpr ⟨nofun, trusted⟩).mp approved⟩

/-- A configuration that names a certificate which is not there is approved. No poll starts with it,
and what a poll says is to have it checked. -/
theorem missing_certificate_approved :
    (call ["check-config"] Sample.pinned).exitStatus = 0 ∧
      (call ["poll"] Sample.pinned).exitStatus = 3 ∧
      (call ["poll"] Sample.pinned).complaint =
        some ("vantage::config\n\nInvalid configuration: datacenter 'near': TLS error: " ++
          "failed to read CA cert: no such file\n\n" ++
          "Run: vantage check-config to validate the file.") := by
  decide +kernel

end Cli

end FleetView
