/-
This file is about the layers of a configuration. A document may set some of the settings of
the dashboard and variables of the environment may set some; each setting is what its
variable says, or else what the document says, or else the standard one, whatever the
others are. The datacenters and the roles are those of the document. This holds of every
document in which the dashboard, if it is there, is a map, and of every environment whose
variables lead to settings of the dashboard or out of the configuration.
-/

import FleetView.Proofs.Variables

namespace FleetView

/-! ### Three layers -/

/-- The standard configuration as the lowest layer. -/
def Config.bottom : Json := Config.standard.toJson.tidy

namespace Config

theorem bottom_settings (setting : Setting) :
    bottom.under? ["dashboard", setting.key] =
      some (setting.write (setting.get DashboardSettings.standard)) := by
  cases setting <;> decide +kernel

theorem bottom_lists {part : String} (list : part ∈ lists) :
    bottom.field? part = some (.array []) := by
  revert part
  decide +kernel

theorem sheet_bottom : bottom.Sheet := by
  have tidied : bottom = .object (Bag.ofMembers
      [("dashboard", DashboardSettings.standard.toJson.tidy), ("datacenters", .array []),
        ("roles", .array [])]) := rfl
  have inner : bottom.field? "dashboard" = some DashboardSettings.standard.toJson.tidy := by
    decide +kernel
  refine ⟨⟨⟨_, tidied, Bag.ascending_ofMembers _⟩, fun part found => ?_⟩,
    fun setting found there => ?_, fun part list found there => ?_⟩
  · cases inner.symm.trans found
    exact ⟨_, rfl, Bag.ascending_ofMembers _⟩
  · cases (bottom_settings setting).symm.trans there
    exact setting.flat_write _
  · cases (bottom_lists list).symm.trans there
    trivial

end Config

/-- What was read is a map in order. -/
theorem Toml.ordered_of_parse {text : String} {document : Json}
    (read : Toml.parse text = some document) : document.Ordered := by
  obtain ⟨lines, -, made⟩ := Option.bind_eq_some_iff.mp read
  obtain ⟨draft, -, rfl⟩ := Option.map_eq_some_iff.mp made
  exact ⟨_, rfl, Bag.ascending_ofMembers _⟩

/-! ### What documents and variables say -/

/-- A value that lists entries, which may be left out where there are none. -/
def Json.Lists {α : Type} (found : Option Json) (decoder : Decoder α) (entries : List α) : Prop :=
  found = none ∧ entries = [] ∨
    ∃ items, found = some (.array items) ∧ Json.Decodes decoder items entries

/-- A document that makes some settings of the dashboard, each with a value of its kind, and lists
datacenters and roles. -/
structure Json.States (document : Json) (stated : (setting : Setting) → Option setting.Value)
    (datacenters : List DatacenterEntry) (roles : List RoleEntry) : Prop where
  dashboard : ∀ part, document.field? "dashboard" = some part → ∃ members, part = .object members
  settings : ∀ setting : Setting, document.under? ["dashboard", setting.key] =
    (stated setting).map setting.write
  fits : ∀ setting value, stated setting = some value → setting.Fits value
  datacenters : Json.Lists (document.field? "datacenters") DatacenterEntry.decoder datacenters
  roles : Json.Lists (document.field? "roles") RoleEntry.decoder roles

/-- An environment in which the variables of some settings are there, each with a text that stands
for a value of its kind, and all other variables lead to no part of a configuration. -/
structure Environment.Gives (environment : Environment)
    (given : (setting : Setting) → Option setting.Value) : Prop where
  once : (environment.map Prod.fst).Nodup
  only : ∀ entry ∈ environment, Variable.Foreign entry.1 ∨
    ∃ setting : Setting, setting.variableName = entry.1
  settings : ∀ setting : Setting,
    (environment.get? setting.variableName).map Variable.setting = (given setting).map setting.write
  fits : ∀ setting value, given setting = some value → setting.Fits value

theorem Json.Lists.above_nothing {α : Type} {found : Option Json} {decoder : Decoder α}
    {entries : List α} (listed : Json.Lists found decoder entries) :
    ∃ items, found.or (some (.array [])) = some (.array items) ∧
      Json.Decodes decoder items entries := by
  rcases listed with ⟨rfl, rfl⟩ | ⟨items, rfl, decodes⟩
  · exact ⟨[], rfl, .nil⟩
  · exact ⟨items, rfl, decodes⟩

theorem Json.Lists.flat {α : Type} {found : Option Json} {decoder : Decoder α}
    {entries : List α} (listed : Json.Lists found decoder entries) {value : Json}
    (there : found = some value) : value.Flat := by
  rcases listed with ⟨rfl, -⟩ | ⟨items, rfl, -⟩
  · cases there
  · cases there
    trivial

section

variable {document : Json} {environment : Environment}
  {stated given : (setting : Setting) → Option setting.Value}
  {datacenters : List DatacenterEntry} {roles : List RoleEntry}

theorem Json.States.sheet (states : document.tidy.States stated datacenters roles)
    (ordered : document.Ordered) : document.tidy.Sheet := by
  refine ⟨⟨ordered.tidy, fun part found => ?_⟩, fun setting found there => ?_,
    fun part list found there => ?_⟩
  · obtain ⟨members, rfl⟩ := states.dashboard part found
    rw [ordered.field?_tidy] at found
    obtain ⟨untidy, -, same⟩ := Option.map_eq_some_iff.mp found
    exact Json.ordered_of_tidy_eq same
  · obtain ⟨value, -, rfl⟩ :=
      Option.map_eq_some_iff.mp ((states.settings setting).symm.trans there)
    exact setting.flat_write value
  · rcases List.mem_pair.mp list with rfl | rfl
    · exact states.datacenters.flat there
    · exact states.roles.flat there

theorem Environment.Gives.known (gives : environment.Gives given) :
    ∀ entry ∈ environment, Variable.Known entry.1 entry.2 := by
  rintro ⟨name, text⟩ listed
  rcases gives.only _ listed with foreign | ⟨setting, rfl⟩
  · exact .foreign foreign
  · have made := gives.settings setting
    rw [get?_of_mem gives.once listed] at made
    obtain ⟨value, -, written⟩ := Option.map_eq_some_iff.mp made.symm
    exact .dashboard setting rfl (written ▸ setting.flat_write value)

/-- The variables that give some settings. -/
def Environment.spelling (given : (setting : Setting) → Option setting.Value) : Environment :=
  Setting.all.filterMap fun setting =>
    (given setting).map fun value => (setting.variableName, setting.text value)

/-- Any settings can be given, with whatever values fit. -/
theorem Environment.gives_spelling
    (fits : ∀ setting value, given setting = some value → setting.Fits value) :
    (spelling given).Gives given := by
  have listed : ∀ {name text : String}, (name, text) ∈ spelling given ↔
      ∃ setting value, given setting = some value ∧ setting.variableName = name ∧
        setting.text value = text := by
    simp [spelling, Setting.mem_all]
  have once : ((spelling given).map Prod.fst).Nodup := by
    have different : Setting.all.Nodup := by decide
    refine List.pairwise_map.mpr (List.Pairwise.filterMap _ ?_ different)
    intro setting other differs entry own name others same
    obtain ⟨value, -, rfl⟩ := Option.map_eq_some_iff.mp own
    obtain ⟨_, -, rfl⟩ := Option.map_eq_some_iff.mp others
    exact differs (Setting.variableName_injective same)
  refine ⟨once, ?_, fun setting => ?_, fits⟩
  · rintro ⟨name, text⟩ there
    obtain ⟨setting, -, -, named, -⟩ := listed.mp there
    exact Or.inr ⟨setting, named⟩
  · cases held : given setting with
    | none =>
      have absent : setting.variableName ∉ (spelling given).map Prod.fst := by
        intro named
        obtain ⟨⟨name, text⟩, there, same⟩ := List.mem_map.mp named
        obtain ⟨other, value, found, rfl, -⟩ := listed.mp there
        cases Setting.variableName_injective same
        cases held.symm.trans found
      rw [get?_eq_none absent]
      rfl
    | some value =>
      rw [get?_of_mem once (listed.mpr ⟨setting, value, held, rfl, rfl⟩), Option.map_some,
        Setting.setting_text (fits setting value held)]
      rfl

/-- All variables together make the settings that are given, and nothing else. -/
theorem Environment.Gives.sets (gives : environment.Gives given) :
    Json.Sets (.object []) environment.settings.tidy fun setting =>
      (given setting).map setting.write := by
  have nothing : (Json.object []).Sheet := ⟨⟨⟨[], rfl, .nil⟩, nofun⟩, nofun, nofun⟩
  have sets := sets_foldl gives.known gives.once nothing
  rw [← settings_eq_foldl] at sets
  refine ⟨sets.sheet.tidy, fun setting => ?_, fun part list => ?_⟩
  · have nowhere : (Json.object []).under? ["dashboard", setting.key] = none := rfl
    rw [sets.sheet.layer.under?_tidy, sets.settings, gives.settings, nowhere, Option.or_none,
      Option.map_map]
    exact congrArg (fun write => Option.map write (given setting))
      (funext fun value => setting.tidy_write value)
  · rw [sets.sheet.layer.ordered.field?_tidy, sets.lists part list]
    rfl

theorem Setting.fits_topmost {setting : Setting} {given stated : Option setting.Value}
    (givenFits : ∀ value, given = some value → setting.Fits value)
    (statedFits : ∀ value, stated = some value → setting.Fits value) :
    setting.Fits ((given.or stated).getD (setting.get .standard)) := by
  cases given with
  | some value => exact givenFits value rfl
  | none =>
    cases stated with
    | some value => exact statedFits value rfl
    | none => exact setting.fits_standard

namespace Config

section

variable (ordered : document.Ordered) (states : document.tidy.States stated datacenters roles)
  (gives : environment.Gives given)

include ordered states gives

/-- The settings of the variables lie above the document, which lies above what is standard. -/
theorem sets_layered :
    Json.Sets (bottom.merge document.tidy) (layered document environment) fun setting =>
      (given setting).map setting.write :=
  gives.sets.merge (sheet_bottom.merge (states.sheet ordered))

/-- Through all layers the topmost value of each setting is seen. -/
theorem under?_layered (setting : Setting) :
    (layered document environment).under? ["dashboard", setting.key] =
      some (setting.write (((given setting).or (stated setting)).getD
        (setting.get .standard))) := by
  rw [(sets_layered ordered states gives).settings,
    sheet_bottom.under?_merge (states.sheet ordered), states.settings, bottom_settings]
  cases given setting <;> cases stated setting <;> rfl

/-- No variable hides a list of the document. -/
theorem field?_layered {part : String} (list : part ∈ lists) :
    (layered document environment).field? part =
      (document.tidy.field? part).or (some (.array [])) := by
  rw [(sets_layered ordered states gives).lists part list,
    sheet_bottom.field?_merge (states.sheet ordered) list, bottom_lists list]

end

/-- Each setting of the dashboard is what its variable makes it, or else what the document makes it,
or else the standard one; the datacenters and the roles are the document's. -/
theorem ofText_layered {text : String} (read : Toml.parse text = some document)
    (states : document.tidy.States stated datacenters roles) (gives : environment.Gives given) :
    ∃ config, ofText text environment = .ok config ∧
      (∀ setting : Setting, setting.get config.dashboard =
        ((given setting).or (stated setting)).getD (setting.get .standard)) ∧
      config.datacenters = datacenters ∧ config.roles = roles := by
  have ordered := Toml.ordered_of_parse read
  let config : Config := ⟨.ofValues fun setting =>
    ((given setting).or (stated setting)).getD (setting.get .standard), datacenters, roles⟩
  have topmost : ∀ setting : Setting, setting.get config.dashboard =
      ((given setting).or (stated setting)).getD (setting.get .standard) :=
    DashboardSettings.get_ofValues _
  have found : ∀ setting : Setting, (layered document environment).under?
      ["dashboard", setting.key] = some (setting.write (setting.get config.dashboard)) :=
    fun setting => topmost setting ▸ under?_layered ordered states gives setting
  have fits : ∀ setting : Setting, setting.Fits (setting.get config.dashboard) := fun setting =>
    topmost setting ▸ Setting.fits_topmost (gives.fits setting) (states.fits setting)
  obtain ⟨datacenterItems, datacentersFound, datacentersDecode⟩ :=
    states.datacenters.above_nothing
  obtain ⟨roleItems, rolesFound, rolesDecode⟩ := states.roles.above_nothing
  rw [← field?_layered ordered states gives (by decide)] at datacentersFound rolesFound
  have decoded : decoder .layers (.ofJson (layered document environment)) = .ok config :=
    decoder_eq_ok (sets_layered ordered states gives).sheet.layer found fits datacentersFound
      datacentersDecode rolesFound rolesDecode
  refine ⟨config, ?_, topmost, rfl, rfl⟩
  rw [ofText, read]
  show ofDocument document environment = .ok config
  rw [ofDocument, decoded]
  rfl

end Config

end

namespace Sample

/-- A document that makes two settings. -/
def tuned : String :=
  "[dashboard]\nrefresh_interval_secs = 30\nretain_stale_data = false\n" ++
    "[[datacenters]]\nname = \"east\"\nurl = \"http://[::1]:4567\"\n" ++
    "[[datacenters]]\nname = \"west\"\nurl = \"http://[::2]:4567\"\n" ++
    "[[roles]]\nname = \"ops\"\ndatacenters = [\"west\"]\n"

/-- A datacenter of the document. -/
def place (name url : String) : Json := .object [("name", .string name), ("url", .string url)]

/-- What the document amounts to. -/
def tunedDocument : Json :=
  .object
    [("dashboard", .object
       [("refresh_interval_secs", .nat 30), ("retain_stale_data", .bool false)]),
     ("datacenters", .array [place "east" "http://[::1]:4567", place "west" "http://[::2]:4567"]),
     ("roles", .array [.object [("datacenters", .strings ["west"]), ("name", .string "ops")]])]

/-- The datacenters of the document. -/
def tunedDatacenters : List DatacenterEntry :=
  [⟨"east", "http://[::1]:4567", none, none, none, none, false, none⟩,
   ⟨"west", "http://[::2]:4567", none, none, none, none, false, none⟩]

/-- The settings of the document. -/
def stated : (setting : Setting) → Option setting.Value
  | .refreshInterval => some 30
  | .retainStaleData => some false
  | .pollTimeout | .dispatchTimeout | .requireSilencingReason | .disableNoExpiration => none

/-- The settings of variables; one of them is also a setting of the document. -/
def given : (setting : Setting) → Option setting.Value
  | .refreshInterval => some 7
  | .disableNoExpiration => some true
  | .pollTimeout | .dispatchTimeout | .requireSilencingReason | .retainStaleData => none

end Sample

namespace Config

/-- The document sets what no variable does, and what neither of them sets is as usual. -/
theorem ofText_layered_tuned :
    Toml.parse Sample.tuned = some Sample.tunedDocument ∧
      Sample.tunedDocument.tidy.States Sample.stated Sample.tunedDatacenters
        [⟨"ops", ["west"], none, false⟩] ∧
      Environment.Gives [("VANTAGE_DASHBOARD__REFRESH_INTERVAL_SECS", "7"),
        ("VANTAGE_DASHBOARD__DISABLE_NO_EXPIRATION", "true")] Sample.given ∧
      ofText Sample.tuned [("VANTAGE_DASHBOARD__REFRESH_INTERVAL_SECS", "7"),
          ("VANTAGE_DASHBOARD__DISABLE_NO_EXPIRATION", "true")] =
        .ok ⟨⟨7, 5, 10, false, true, false⟩, Sample.tunedDatacenters,
          [⟨"ops", ["west"], none, false⟩]⟩ := by
  have read : Toml.parse Sample.tuned = some Sample.tunedDocument := by decide +kernel
  have dashboard : Sample.tunedDocument.tidy.field? "dashboard" = some (.object
      [("refresh_interval_secs", .nat 30), ("retain_stale_data", .bool false)]) := by
    decide +kernel
  have states : Sample.tunedDocument.tidy.States Sample.stated Sample.tunedDatacenters
      [⟨"ops", ["west"], none, false⟩] := by
    refine ⟨fun part found => ⟨_, Option.some.inj (found.symm.trans dashboard)⟩, fun setting => ?_,
      fun setting value same => ?_, ?_, ?_⟩
    · cases setting <;> decide +kernel
    · cases setting <;> cases same <;> decide
    · exact Or.inr ⟨_, rfl, .cons rfl (.cons rfl .nil)⟩
    · exact Or.inr ⟨_, rfl, .cons rfl .nil⟩
  have spelled : Environment.spelling Sample.given =
      [("VANTAGE_DASHBOARD__REFRESH_INTERVAL_SECS", "7"),
        ("VANTAGE_DASHBOARD__DISABLE_NO_EXPIRATION", "true")] := by
    decide +kernel
  have gives : (Environment.spelling Sample.given).Gives Sample.given := by
    refine Environment.gives_spelling fun setting value same => ?_
    cases setting <;> cases same <;> decide
  rw [spelled] at gives
  obtain ⟨config, loaded, settings, datacenters, roles⟩ := ofText_layered read states gives
  have dashboard : config.dashboard = ⟨7, 5, 10, false, true, false⟩ :=
    DashboardSettings.eq_of_get_eq fun setting =>
      (settings setting).trans (by cases setting <;> rfl)
  refine ⟨read, states, gives, loaded.trans ?_⟩
  rw [← dashboard, ← datacenters, ← roles]

end Config

end FleetView
