/-
This file says which secrets a check of the configuration gives away. A password comes from
the file, from a variable, or from in front of the host in an address. Of the first two
nothing is written, so configurations that differ in them cannot be told apart by what the
check writes, nor by its exit status. An address is written as it is, with the password in
it; so the output is the same exactly where the passwords in the addresses are.
-/

import FleetView.Proofs.Acceptance
import FleetView.Proofs.Passwords
import FleetView.Proofs.Verdict

namespace FleetView

/-! ### Differing in secrets -/

/-- Entries of datacenters that differ in secrets only: in the password that is written down, in the
text of the variable of the password, as long as it has one in both cases or in neither, and in the
password of the address. -/
structure DatacenterEntry.SameButSecrets (one other : DatacenterEntry)
    (environment otherEnvironment : Environment) : Prop where
  name : one.name = other.name
  address : Url.SameButPassword one.url other.url
  user : one.user = other.user
  variableName : one.passwordVariable = other.passwordVariable
  set : ∀ source, one.passwordVariable = some source →
    (environment.get? source = none ↔ otherEnvironment.get? source = none)
  timeout : one.timeout = other.timeout
  insecure : one.insecure = other.insecure
  certificate : one.certificate = other.certificate

/-- Configurations that differ in secrets only. -/
structure Config.SameButSecrets (one other : Config) (environment otherEnvironment : Environment) :
    Prop where
  dashboard : one.dashboard = other.dashboard
  datacenters : List.Forall₂ (fun entry otherEntry =>
    entry.SameButSecrets otherEntry environment otherEnvironment) one.datacenters other.datacenters
  roles : one.roles = other.roles

/-- The passwords in the addresses of the datacenters. -/
def Config.addressPasswords (config : Config) : List (Option String) :=
  config.datacenters.map fun entry => (Url.web? entry.url).bind Url.password?

/-- Datacenters that differ in their passwords only, as far as they are shown. -/
structure Datacenter.SameButSecrets (one other : Datacenter) : Prop where
  name : one.name = other.name
  address : one.url.withoutPassword = other.url.withoutPassword
  username : one.credentials.map (·.username) = other.credentials.map (·.username)
  timeout : one.timeout = other.timeout
  clear : one.url.Clear
  otherClear : other.url.Clear

/-! ### What is accepted -/

section

variable {environment otherEnvironment : Environment}

namespace DatacenterEntry.SameButSecrets

variable {one other : DatacenterEntry}

theorem symm (alike : one.SameButSecrets other environment otherEnvironment) :
    other.SameButSecrets one otherEnvironment environment where
  name := alike.name.symm
  address := alike.address.symm
  user := alike.user.symm
  variableName := alike.variableName.symm
  set := fun source named => (alike.set source (alike.variableName.trans named)).symm
  timeout := alike.timeout.symm
  insecure := alike.insecure.symm
  certificate := alike.certificate.symm

/-- The other address is one of the web too, and the same but for its password. -/
theorem exists_address (alike : one.SameButSecrets other environment otherEnvironment) {url : Url}
    (parsed : Url.parse one.url = .ok url) (web : url.scheme = "http" ∨ url.scheme = "https") :
    ∃ otherUrl, Url.parse other.url = .ok otherUrl ∧
      (otherUrl.scheme = "http" ∨ otherUrl.scheme = "https") ∧
      url.withoutPassword = otherUrl.withoutPassword := by
  have same := alike.address
  rw [Url.SameButPassword, Url.web?_eq_some_iff.mpr ⟨parsed, web⟩] at same
  obtain ⟨otherUrl, found, shown⟩ := Option.map_eq_some_iff.mp same.symm
  obtain ⟨otherParsed, otherWeb⟩ := Url.web?_eq_some_iff.mp found
  exact ⟨otherUrl, otherParsed, otherWeb, shown.symm⟩

theorem acceptable (alike : one.SameButSecrets other environment otherEnvironment)
    (fine : one.Acceptable environment) : other.Acceptable otherEnvironment where
  named := alike.name ▸ fine.named
  addressed := by
    obtain ⟨url, parsed, web⟩ := fine.addressed
    obtain ⟨otherUrl, otherParsed, otherWeb, -⟩ := alike.exists_address parsed web
    exact ⟨otherUrl, otherParsed, otherWeb⟩
  timed := alike.timeout ▸ fine.timed
  known := fun source authorized named unset =>
    have oneNamed := alike.variableName.trans named
    fine.known source (alike.user ▸ authorized) oneNamed ((alike.set source oneNamed).mpr unset)

/-- What is made of the entries differs in passwords only. -/
theorem made (alike : one.SameButSecrets other environment otherEnvironment)
    {made otherMade : Datacenter} (makes : one.Makes environment made)
    (otherMakes : other.Makes otherEnvironment otherMade) (usable : Registry.Usable made) :
    made.SameButSecrets otherMade := by
  obtain ⟨url, parsed, web, same⟩ := alike.exists_address makes.url usable.2
  obtain rfl := Except.ok.inj (parsed.symm.trans otherMakes.url)
  exact
    { name := makes.name.trans (alike.name.trans otherMakes.name.symm)
      address := same
      username := makes.username.trans (alike.user.trans otherMakes.username.symm)
      timeout := by rw [makes.timeout, otherMakes.timeout, alike.timeout]
      clear := Url.clear_of_parse makes.url usable.2
      otherClear := Url.clear_of_parse parsed web }

end DatacenterEntry.SameButSecrets

namespace Config.SameButSecrets

variable {one other : Config}

theorem symm (alike : one.SameButSecrets other environment otherEnvironment) :
    other.SameButSecrets one otherEnvironment environment where
  dashboard := alike.dashboard.symm
  datacenters := List.Forall₂.flip (alike.datacenters.imp fun _ _ same => same.symm)
  roles := alike.roles.symm

theorem acceptable (alike : one.SameButSecrets other environment otherEnvironment)
    (fine : one.Acceptable environment) : other.Acceptable otherEnvironment := by
  have names : one.datacenters.map (·.name) = other.datacenters.map (·.name) :=
    map_eq_of_forall₂ (alike.datacenters.imp fun _ _ same => same.name)
  exact
    { polls := alike.dashboard ▸ fine.polls
      sends := alike.dashboard ▸ fine.sends
      inhabited := fun empty => fine.inhabited
        (List.map_eq_nil_iff.mp (names.trans (List.map_eq_nil_iff.mpr empty)))
      distinct := names ▸ fine.distinct
      datacenters := fun entry member => by
        obtain ⟨oneEntry, there, same⟩ := exists_left_of_forall₂ alike.datacenters member
        exact same.acceptable (fine.datacenters oneEntry there)
      distinctRoles := alike.roles ▸ fine.distinctRoles
      roles := alike.roles ▸ names ▸ fine.roles }

/-- Whether a configuration is accepted does not depend on its secrets. -/
theorem exists_setup (alike : one.SameButSecrets other environment otherEnvironment) {setup : Setup}
    (accepted : one.setup environment = .ok setup) :
    ∃ otherSetup, other.setup otherEnvironment = .ok otherSetup :=
  Config.exists_setup_of_acceptable
    (alike.acceptable (Config.acceptable_of_setup_eq_ok accepted))

/-- What is made of the configurations differs in the passwords of the datacenters only. -/
theorem setups (alike : one.SameButSecrets other environment otherEnvironment)
    {setup otherSetup : Setup} (accepted : one.setup environment = .ok setup)
    (otherAccepted : other.setup otherEnvironment = .ok otherSetup) :
    List.Forall₂ Datacenter.SameButSecrets setup.registry.datacenters
        otherSetup.registry.datacenters ∧
      setup.registry.roles = otherSetup.registry.roles ∧ setup.policy = otherSetup.policy := by
  have fine := (Config.acceptable_of_setup_eq_ok accepted).datacenters
  have makes := (Config.makes_of_setup_eq_ok accepted).datacenters
  have otherMakes := (Config.makes_of_setup_eq_ok otherAccepted).datacenters
  obtain ⟨-, -, -, roles, policy⟩ := Config.setup_eq_ok_iff.mp accepted
  obtain ⟨-, -, -, otherRoles, otherPolicy⟩ := Config.setup_eq_ok_iff.mp otherAccepted
  refine ⟨?_, ?_, by rw [policy, otherPolicy, alike.dashboard]⟩
  · exact forall₂_of_forall₂
      (fun _ _ _ _ same ⟨entryFine, entryMakes⟩ otherEntryMakes =>
        same.made entryMakes otherEntryMakes (entryFine.usable entryMakes))
      alike.datacenters ((List.forall₂_and_left _ _).mpr ⟨fine, makes⟩) otherMakes
  · rw [alike.roles, otherRoles] at roles
    exact (Except.ok.inj roles).symm

end Config.SameButSecrets

/-- The passwords in the addresses are those of what is made of a configuration. -/
theorem Config.addressPasswords_eq {config : Config} {setup : Setup}
    (accepted : config.setup environment = .ok setup) :
    config.addressPasswords = setup.registry.datacenters.map (·.url.password?) := by
  have fine := (acceptable_of_setup_eq_ok accepted).datacenters
  have makes := (makes_of_setup_eq_ok accepted).datacenters
  refine map_eq_of_forall₂ (((List.forall₂_and_left _ _).mpr ⟨fine, makes⟩).imp ?_)
  rintro entry made ⟨entryFine, entryMakes⟩
  rw [Url.web?_eq_some_iff.mpr ⟨entryMakes.url, (entryFine.usable entryMakes).2⟩, Option.bind_some]

end

namespace Cli

/-! ### What is written -/

section

variable {one other : Datacenter}

/-- Of datacenters that differ in their passwords only, the rows differ in the address only. -/
theorem exists_datacenterRow (alike : one.SameButSecrets other) (policy : Policy) :
    ∃ behind, datacenterRow policy one = [one.name] ++ one.url.text :: behind ∧
      datacenterRow policy other = [one.name] ++ other.url.text :: behind := by
  refine ⟨_, rfl, ?_⟩
  have username := alike.username
  unfold datacenterRow
  rw [alike.name, alike.timeout]
  cases held : one.credentials with
  | none =>
    rw [held] at username
    rw [Option.map_eq_none_iff.mp username.symm]
    rfl
  | some credentials =>
    rw [held] at username
    obtain ⟨otherCredentials, otherHeld, named⟩ := Option.map_eq_some_iff.mp username.symm
    rw [otherHeld]
    dsimp only
    rw [named]
    rfl

theorem rowHeight_of_alike (alike : one.SameButSecrets other) (policy : Policy) :
    Text.rowHeight (datacenterRow policy one) = Text.rowHeight (datacenterRow policy other) := by
  obtain ⟨behind, row, otherRow⟩ := exists_datacenterRow alike policy
  simp only [row, otherRow, Text.rowHeight, List.map_append, List.map_cons,
    (alike.clear.alike alike.otherClear alike.address).1]

/-- Datacenters that differ in their passwords only are shown alike exactly where the passwords in
their addresses are the same. -/
theorem url_eq_of_rowLines_eq (alike : one.SameButSecrets other) (policy : Policy)
    {widths : List Nat} (wide : 1 < widths.length)
    (same : Text.rowLines widths (datacenterRow policy one) =
      Text.rowLines widths (datacenterRow policy other)) : one.url = other.url := by
  obtain ⟨behind, row, otherRow⟩ := exists_datacenterRow alike policy
  rw [row, otherRow] at same
  exact (alike.clear.alike alike.otherClear alike.address).2
    (Text.looksLike_of_rowLines_eq (by exact wide) same)

end

/-- The heads of the columns of datacenters. -/
def datacenterHeader : List String := ["Name", "URL", "Auth", "Timeout"]

/-- The table of datacenters. -/
def datacenterTable (policy : Policy) (datacenters : List Datacenter) : String :=
  Text.table datacenterHeader (datacenters.map (datacenterRow policy))

/-- Tables of datacenters that differ in their passwords only are the same exactly where the
passwords in the addresses are. -/
theorem datacenterTable_eq_iff {datacenters others : List Datacenter}
    (alike : List.Forall₂ Datacenter.SameButSecrets datacenters others) (policy : Policy) :
    datacenterTable policy datacenters = datacenterTable policy others ↔
      datacenters.map (·.url.password?) = others.map (·.url.password?) := by
  constructor
  · intro same
    unfold datacenterTable at same
    have headed : datacenterHeader ≠ [] := List.cons_ne_nil _ _
    have every : ∀ datacenter, (datacenterRow policy datacenter).length = datacenterHeader.length :=
      fun _ => rfl
    obtain ⟨widths, long, rows⟩ := Text.rowLines_of_table_eq headed every
      (fun _ _ related => rowHeight_of_alike related policy) alike same
    have wide : 1 < widths.length := long ▸ (by decide : 1 < datacenterHeader.length)
    exact map_eq_of_forall₂ (rows.imp fun one other ⟨related, lines⟩ =>
      congrArg Url.password? (url_eq_of_rowLines_eq related policy wide lines))
  · intro passwords
    have each : List.Forall₂ (fun one other : Datacenter => one.url.password? = other.url.password?)
        datacenters others := by
      rwa [← List.forall₂_eq_eq_eq, List.forall₂_map_left_iff, List.forall₂_map_right_iff]
        at passwords
    refine congrArg (Text.table _) (map_eq_of_forall₂ (List.Forall₂.mp ?_ alike each))
    intro one other related password
    obtain ⟨behind, row, otherRow⟩ := exists_datacenterRow related policy
    rw [row, otherRow, Url.eq_of_password?_eq related.address password]

/-- What is written of setups that differ in passwords only is the same exactly where the passwords
in the addresses are. -/
theorem written_describeSetup_eq_iff {setup other : Setup}
    (alike : List.Forall₂ Datacenter.SameButSecrets setup.registry.datacenters
      other.registry.datacenters)
    (roles : setup.registry.roles = other.registry.roles) (policy : setup.policy = other.policy) :
    written (describeSetup setup) = written (describeSetup other) ↔
      setup.registry.datacenters.map (·.url.password?) =
        other.registry.datacenters.map (·.url.password?) := by
  have split : ∀ setup : Setup, describeSetup setup =
      datacenterTable setup.policy setup.registry.datacenters :: (describeSetup setup).tail :=
    fun _ => rfl
  have rest : (describeSetup setup).tail = (describeSetup other).tail := by
    dsimp only [describeSetup, List.cons_append, List.tail_cons]
    rw [roles, policy]
  rw [split setup, split other, datacenterTable, datacenterTable,
    written_cons (Text.table_ne_empty _ _), written_cons (Text.table_ne_empty _ _), rest,
    String.append_left_inj, String.append_left_inj, policy]
  exact datacenterTable_eq_iff alike other.policy

/-! ### Checking a configuration -/

/-- Whether a call checks a configuration: it is asked to check one, and this is the one that its
file comes to. -/
def Checks (arguments : List String) (around : Surroundings) (config : Config) : Prop :=
  ∃ options, parse arguments around.environment = .ok (.checkConfig, options) ∧
    Config.ofFile around.files (options.config.getD around.standardPath)
      around.environment = .ok config

namespace Checks

variable {arguments : List String} {around : Surroundings} {config : Config}

/-- What is accepted is written. -/
theorem accepted (checks : Checks arguments around config) {setup : Setup}
    (accepted : config.setup around.environment = .ok setup) :
    (call arguments around).exitStatus = 0 ∧
      (call arguments around).output = written (describeSetup setup) := by
  obtain ⟨options, asked, loaded⟩ := checks
  obtain ⟨exited, output, -⟩ := call_of_parse asked
  rw [execute, load_eq_ok loaded accepted] at exited output
  exact ⟨exited, output⟩

/-- Of what is refused nothing is written. -/
theorem refused (checks : Checks arguments around config) {flaw : ConfigFlaw}
    (refused : config.setup around.environment = .error flaw) :
    (call arguments around).exitStatus = 3 ∧ (call arguments around).output = "" := by
  obtain ⟨options, asked, loaded⟩ := checks
  obtain ⟨exited, output, -⟩ := call_of_parse asked
  have unloaded : load options around = .error (.ofConfig flaw) := by
    rw [load, loaded]
    show ((Config.setup _ _).mapError _) = _
    rw [refused]
    rfl
  rw [execute, unloaded] at exited output
  exact ⟨exited.trans (TaskFailure.exitStatus_ofConfig flaw), output⟩

variable {otherArguments : List String} {otherAround : Surroundings} {other : Config}

/-- Of what is accepted the same is written exactly where the passwords in the addresses are the
same. -/
theorem output_eq_iff (checks : Checks arguments around config)
    (otherChecks : Checks otherArguments otherAround other)
    (alike : config.SameButSecrets other around.environment otherAround.environment) {setup : Setup}
    (accepted : config.setup around.environment = .ok setup) :
    (call arguments around).exitStatus = (call otherArguments otherAround).exitStatus ∧
      ((call arguments around).output = (call otherArguments otherAround).output ↔
        config.addressPasswords = other.addressPasswords) := by
  obtain ⟨otherSetup, otherAccepted⟩ := alike.exists_setup accepted
  obtain ⟨datacenters, roles, policy⟩ := alike.setups accepted otherAccepted
  obtain ⟨exited, output⟩ := checks.accepted accepted
  obtain ⟨otherExited, otherOutput⟩ := otherChecks.accepted otherAccepted
  refine ⟨exited.trans otherExited.symm, ?_⟩
  rw [output, otherOutput, written_describeSetup_eq_iff datacenters roles policy,
    Config.addressPasswords_eq accepted, Config.addressPasswords_eq otherAccepted]

/-- Of what is refused nothing is written, whatever the secrets are. -/
theorem output_eq_of_refused (checks : Checks arguments around config)
    (otherChecks : Checks otherArguments otherAround other)
    (alike : config.SameButSecrets other around.environment otherAround.environment)
    {flaw : ConfigFlaw} (unaccepted : config.setup around.environment = .error flaw) :
    (call arguments around).exitStatus = (call otherArguments otherAround).exitStatus ∧
      (call arguments around).output = (call otherArguments otherAround).output := by
  cases otherUnaccepted : other.setup otherAround.environment with
  | ok otherSetup =>
    obtain ⟨setup, clash⟩ := alike.symm.exists_setup otherUnaccepted
    rw [unaccepted] at clash
    cases clash
  | error otherFlaw =>
    obtain ⟨exited, output⟩ := checks.refused unaccepted
    obtain ⟨otherExited, otherOutput⟩ := otherChecks.refused otherUnaccepted
    exact ⟨exited.trans otherExited.symm, output.trans otherOutput.symm⟩

end Checks

/-- A check of the configuration exits alike whatever the secrets are. It writes the same exactly
where the configuration is refused or the passwords in the addresses are the same; no other secret
makes a difference. -/
theorem check_tells_iff {arguments otherArguments : List String}
    {around otherAround : Surroundings} {config other : Config}
    (checks : Checks arguments around config)
    (otherChecks : Checks otherArguments otherAround other)
    (alike : config.SameButSecrets other around.environment otherAround.environment) :
    (call arguments around).exitStatus = (call otherArguments otherAround).exitStatus ∧
      ((call arguments around).output = (call otherArguments otherAround).output ↔
        ((∃ setup, config.setup around.environment = .ok setup) →
          config.addressPasswords = other.addressPasswords)) := by
  cases accepted : config.setup around.environment with
  | ok setup =>
    obtain ⟨exited, output⟩ := checks.output_eq_iff otherChecks alike accepted
    exact ⟨exited, output.trans ⟨fun same _ => same, fun same => same ⟨setup, rfl⟩⟩⟩
  | error flaw =>
    obtain ⟨exited, output⟩ := checks.output_eq_of_refused otherChecks alike accepted
    exact ⟨exited, iff_of_true output fun ⟨_, clash⟩ => nomatch clash⟩

end Cli

namespace Sample

/-- An address with a password in it. -/
def signedAddress (password : String) : String :=
  "http" ++ "://" ++ ("ann" ++ ":" ++ password ++ "@" ++ "[::1]:4567")

/-- A configuration with a password in the address, one that is written down, and one in a
variable. -/
def keeping (address written : String) : Config :=
  ⟨.standard, [⟨"near", signedAddress address, some "ann", some written, some "NEAR_PASSWORD", none,
    false, none⟩], []⟩

/-- The file that it is in. -/
def keepingFile (address written : String) : List UInt8 :=
  Text.Utf8.encode ("[[datacenters]]\nname = \"near\"\nurl = \"" ++ signedAddress address ++
    "\"\nuser = \"ann\"\npassword = \"" ++ written ++ "\"\npassword_env = \"NEAR_PASSWORD\"\n")

/-- The file wherever it is looked for, where the variable is set. -/
def keeper (address written looked : String) : Cli.Surroundings :=
  { unanswered with
    environment := [("NEAR_PASSWORD", looked)]
    files := fun _ => .file (.ok (keepingFile address written)) }

theorem keeper_checks :
    Cli.Checks ["check-config"] (keeper "one" "old" "red") (keeping "one" "old") :=
  ⟨_, rfl, eq_ok_of_toOption_eq_some (by decide +kernel)⟩

/-- Configurations of this kind differ in secrets only, as long as no password ends the part in
front of the path. -/
theorem keeping_sameButSecrets {address otherAddress : String} (fits : Url.Fits address)
    (otherFits : Url.Fits otherAddress) (written otherWritten looked otherLooked : String) :
    (keeping address written).SameButSecrets (keeping otherAddress otherWritten)
      [("NEAR_PASSWORD", looked)] [("NEAR_PASSWORD", otherLooked)] where
  dashboard := rfl
  datacenters := by
    refine .cons ⟨rfl, ?_, rfl, rfl, fun source named => ?_, rfl, rfl, rfl⟩ .nil
    · have name : Url.Fits "ann" := rfl
      exact Url.sameButPassword (Or.inl rfl) name fits otherFits _
    · obtain rfl := Option.some.inj named
      exact iff_of_false nofun nofun
  roles := rfl

theorem keeping_accepted :
    ∃ setup, (keeping "one" "old").setup [("NEAR_PASSWORD", "red")] = .ok setup := by
  have made : ((keeping "one" "old").setup [("NEAR_PASSWORD", "red")]).toOption.isSome := by
    decide +kernel
  obtain ⟨setup, found⟩ := Option.isSome_iff_exists.mp made
  exact ⟨setup, eq_ok_of_toOption_eq_some found⟩

end Sample

namespace Cli

/-- Neither the password that is written down nor the one in the variable is told. -/
theorem check_tells_iff_keeping :
    Checks ["check-config"] (Sample.keeper "one" "old" "red") (Sample.keeping "one" "old") ∧
      Checks ["check-config"] (Sample.keeper "one" "new" "blue") (Sample.keeping "one" "new") ∧
      (Sample.keeping "one" "old").SameButSecrets (Sample.keeping "one" "new")
        [("NEAR_PASSWORD", "red")] [("NEAR_PASSWORD", "blue")] ∧
      (∃ setup, (Sample.keeping "one" "old").setup [("NEAR_PASSWORD", "red")] = .ok setup) ∧
      (call ["check-config"] (Sample.keeper "one" "old" "red")).exitStatus =
        (call ["check-config"] (Sample.keeper "one" "new" "blue")).exitStatus ∧
      (call ["check-config"] (Sample.keeper "one" "old" "red")).output =
        (call ["check-config"] (Sample.keeper "one" "new" "blue")).output := by
  have checks : Checks ["check-config"] (Sample.keeper "one" "new" "blue")
      (Sample.keeping "one" "new") := ⟨_, rfl, eq_ok_of_toOption_eq_some (by decide +kernel)⟩
  have one : Url.Fits "one" := rfl
  have alike := Sample.keeping_sameButSecrets one one "old" "new" "red" "blue"
  obtain ⟨exited, output⟩ := check_tells_iff Sample.keeper_checks checks alike
  exact ⟨Sample.keeper_checks, checks, alike, Sample.keeping_accepted, exited,
    output.mpr fun _ => rfl⟩

/-- The password in an address is told. -/
theorem address_password_told :
    Checks ["check-config"] (Sample.keeper "one" "old" "red") (Sample.keeping "one" "old") ∧
      Checks ["check-config"] (Sample.keeper "two" "old" "red") (Sample.keeping "two" "old") ∧
      (Sample.keeping "one" "old").SameButSecrets (Sample.keeping "two" "old")
        [("NEAR_PASSWORD", "red")] [("NEAR_PASSWORD", "red")] ∧
      (call ["check-config"] (Sample.keeper "one" "old" "red")).output ≠
        (call ["check-config"] (Sample.keeper "two" "old" "red")).output := by
  have checks : Checks ["check-config"] (Sample.keeper "two" "old" "red")
      (Sample.keeping "two" "old") := ⟨_, rfl, eq_ok_of_toOption_eq_some (by decide +kernel)⟩
  have one : Url.Fits "one" := rfl
  have two : Url.Fits "two" := rfl
  have alike := Sample.keeping_sameButSecrets one two "old" "old" "red" "red"
  obtain ⟨setup, accepted⟩ := Sample.keeping_accepted
  obtain ⟨-, output⟩ := Sample.keeper_checks.output_eq_iff checks alike accepted
  have passwords : (Sample.keeping "one" "old").addressPasswords ≠
      (Sample.keeping "two" "old").addressPasswords := by
    decide +kernel
  exact ⟨Sample.keeper_checks, checks, alike, fun same => passwords (output.mp same)⟩

end Cli

end FleetView
