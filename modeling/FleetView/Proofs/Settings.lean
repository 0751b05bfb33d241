/-
This file is about a configuration that is decoded from a map in order. A record that passes
over what it does not know takes no notice of how the members are arranged: each field is
what is found under its name. So the settings of the dashboard can be told one by one, each
from what stands under its key, and the datacenters and the roles are the items of their
lists, one after the other.
-/

import FleetView.Config.Basic
import FleetView.Proofs.Merging
import FleetView.Proofs.Replacing
import FleetView.Proofs.Spelling

namespace FleetView

/-! ### Records that are decoded from a map in order -/

namespace Document

theorem skippedItems_ofJsonItems {items : List Json}
    (each : ∀ item ∈ items, (ofJson item).skipped = none) :
    skippedItems (ofJsonItems items) = none := by
  induction items with
  | nil => rfl
  | cons item rest inductionHypothesis =>
    obtain ⟨first, others⟩ := List.forall_mem_cons.mp each
    rw [ofJsonItems, skippedItems, first, Option.none_or]
    exact inductionHypothesis others

theorem skippedMembers_ofJsonMembers {members : List (String × Json)}
    (each : ∀ member ∈ members, (ofJson member.2).skipped = none) :
    skippedMembers (ofJsonMembers members) = none := by
  induction members with
  | nil => rfl
  | cons member rest inductionHypothesis =>
    obtain ⟨first, others⟩ := List.forall_mem_cons.mp each
    rw [ofJsonMembers, skippedMembers, first, Option.none_or]
    exact inductionHypothesis others

/-- A value that is passed over has nothing wrong with it. -/
theorem skipped_ofJson (value : Json) : (ofJson value).skipped = none := by
  induction value using Json.induct with
  | null | bool | number | string => rfl
  | array items each =>
    rw [ofJson, skipped, skippedItems_ofJsonItems each]
    rfl
  | object members each =>
    rw [ofJson, skipped, skippedMembers_ofJsonMembers each]
    rfl

end Document

namespace Record

variable {α β : Type} {source : Source} {name : String}

/-- Where a record is built from members, the content of each of its fields has passed. -/
def Checked (record : Record α) : Prop :=
  ∀ source find value, record.fromMembers source find = .ok value →
    ∀ name ∈ record.names, ∀ content, find name = some content →
      record.check name source content = .ok ()

theorem checked_of (value : α) : (Record.of value).Checked := nofun

theorem Checked.field {record : Record (α → β)} (before : record.Checked) {absence : Absence α}
    {decoder : Decoder α} : (record.field name absence decoder).Checked := by
  intro source find result built asked named content found
  obtain ⟨build, made, value, own, -⟩ := fromMembers_field_eq_ok_iff.mp built
  by_cases same : asked = name
  · subst same
    refine (if_pos rfl).trans ?_
    rcases member_eq_ok_iff.mp own with ⟨held, there, decoded⟩ | ⟨missing, -⟩
    · rw [Option.some.inj (found.symm.trans there), mapError_eq_ok_iff.mpr decoded]
      rfl
    · rw [missing] at found
      cases found
  · refine (if_neg same).trans (before _ _ _ made asked ?_ content found)
    exact (List.mem_append.mp named).resolve_right fun own => same (List.mem_singleton.mp own)

/-- From a map in order a record is built of what is found under the names of its fields. -/
theorem closed_ofJson_eq_ok_iff {record : Record α} (checked : record.Checked) {title : String}
    {bag : Bag} (ascending : Ascending Prod.fst bag) {value : α} :
    record.closed title source (.ofJson (.object bag)) = .ok value ↔
      record.fromMembers source (fun name => (bag.get? name).map .ofJson) = .ok value := by
  have looked : lookup (Document.ofJsonMembers bag) =
      fun name => (bag.get? name).map Document.ofJson := funext (lookup_ofJsonMembers bag)
  have once : (record.fieldsNamed (Document.ofJsonMembers bag)).Nodup := by
    rw [fieldsNamed_ofJsonMembers]
    exact ((List.pairwise_map.mpr ascending).imp ne_of_lt).sublist List.filter_sublist
  rw [← looked]
  show record.decodeObject .passedOver source (Document.ofJsonMembers bag) .closed = .ok value ↔ _
  rw [decodeObject_eq_ok_iff]
  refine ⟨fun decoded => decoded.2.2, fun built => ⟨?_, rfl, built⟩⟩
  refine walk_eq_ok_iff.mpr ⟨fun member listed => ?_, once, nofun⟩
  have document := listed
  rw [Document.ofJsonMembers_eq_map] at document
  obtain ⟨⟨name, held⟩, -, rfl⟩ := List.mem_map.mp document
  refine passes_iff.mpr ?_
  split
  · rename_i field
    exact checked _ _ _ built name field _ (lookup_eq_some_of_mem once field listed)
  · exact unflawed_eq_ok_iff.mpr (Document.skipped_ofJson held)

/-- A field that is found is put behind those before it. -/
theorem fromMembers_field_of_get? {record : Record (α → β)} {build : α → β} {bag : Bag}
    (before : record.fromMembers source (fun name => (bag.get? name).map .ofJson) = .ok build)
    {absence : Absence α} {decoder : Decoder α} {json : Json} {value : α}
    (found : bag.get? name = some json) (decoded : decoder source (.ofJson json) = .ok value) :
    (record.field name absence decoder).fromMembers source
      (fun name => (bag.get? name).map .ofJson) = .ok (build value) := by
  refine fromMembers_field_eq_ok_iff.mpr ⟨build, before, value, ?_, rfl⟩
  exact member_eq_ok_iff.mpr (Or.inl ⟨_, congrArg (Option.map Document.ofJson) found, decoded⟩)

end Record

/-! ### Settings of the dashboard -/

/-- What can be set about the dashboard. -/
inductive Setting where
  | refreshInterval
  | pollTimeout
  | dispatchTimeout
  | requireSilencingReason
  | disableNoExpiration
  | retainStaleData
  deriving DecidableEq

namespace Setting

/-- Every setting, in the order in which they are written. -/
def all : List Setting :=
  [.refreshInterval, .pollTimeout, .dispatchTimeout, .requireSilencingReason, .disableNoExpiration,
    .retainStaleData]

theorem mem_all (setting : Setting) : setting ∈ all := by
  cases setting <;> decide

/-- The name of the setting. -/
def key : Setting → String
  | .refreshInterval => "refresh_interval_secs"
  | .pollTimeout => "poll_timeout_secs"
  | .dispatchTimeout => "dispatch_timeout_secs"
  | .requireSilencingReason => "require_silencing_reason"
  | .disableNoExpiration => "disable_no_expiration"
  | .retainStaleData => "retain_stale_data"

/-- Times are counts of seconds, and the rest is allowed or not. -/
@[reducible] def Value : Setting → Type
  | .refreshInterval | .pollTimeout | .dispatchTimeout => Nat
  | .requireSilencingReason | .disableNoExpiration | .retainStaleData => Bool

/-- The setting among all settings. -/
def get (settings : DashboardSettings) : (setting : Setting) → setting.Value
  | .refreshInterval => settings.refreshInterval
  | .pollTimeout => settings.pollTimeout
  | .dispatchTimeout => settings.dispatchTimeout
  | .requireSilencingReason => settings.requireSilencingReason
  | .disableNoExpiration => settings.disableNoExpiration
  | .retainStaleData => settings.retainStaleData

/-- The value as it stands in a document. -/
def write : (setting : Setting) → setting.Value → Json
  | .refreshInterval, value | .pollTimeout, value | .dispatchTimeout, value => .nat value
  | .requireSilencingReason, value | .disableNoExpiration, value | .retainStaleData, value =>
    .bool value

/-- How the value is read. -/
def decoder : (setting : Setting) → Decoder setting.Value
  | .refreshInterval | .pollTimeout | .dispatchTimeout => .u64
  | .requireSilencingReason | .disableNoExpiration | .retainStaleData => .bool

/-- Times have 64 bits. -/
def Fits : (setting : Setting) → setting.Value → Prop
  | .refreshInterval, value | .pollTimeout, value | .dispatchTimeout, value =>
    value < Word.count 64
  | .requireSilencingReason, _ | .disableNoExpiration, _ | .retainStaleData, _ => True

instance : (setting : Setting) → (value : setting.Value) → Decidable (setting.Fits value)
  | .refreshInterval, value | .pollTimeout, value | .dispatchTimeout, value =>
    Nat.decLt value (Word.count 64)
  | .requireSilencingReason, _ | .disableNoExpiration, _ | .retainStaleData, _ => isTrue trivial

variable {setting other : Setting}

theorem key_injective (same : setting.key = other.key) : setting = other := by
  revert same
  cases setting <;> cases other <;> decide

theorem fits_standard (setting : Setting) : setting.Fits (setting.get .standard) := by
  cases setting <;> decide

theorem decoder_write {value : setting.Value} (fits : setting.Fits value) :
    setting.decoder .layers (.ofJson (setting.write value)) = .ok value := by
  have time : ∀ {value : Nat}, value < Word.count 64 →
      Decoder.u64.Stands (fun _ => True) 0 (.nat value) value :=
    fun below => Decoder.stands_natural below trivial
  cases setting with
  | refreshInterval | pollTimeout | dispatchTimeout => exact (time fits).recovered
  | requireSilencingReason | disableNoExpiration | retainStaleData => rfl

theorem flat_write (value : setting.Value) : (setting.write value).Flat := by
  cases setting <;> trivial

theorem tidy_write (value : setting.Value) : (setting.write value).tidy = setting.write value := by
  cases setting <;> rfl

end Setting

namespace DashboardSettings

/-- All settings, one by one. -/
def ofValues (value : (setting : Setting) → setting.Value) : DashboardSettings where
  refreshInterval := value .refreshInterval
  pollTimeout := value .pollTimeout
  dispatchTimeout := value .dispatchTimeout
  requireSilencingReason := value .requireSilencingReason
  disableNoExpiration := value .disableNoExpiration
  retainStaleData := value .retainStaleData

@[simp] theorem get_ofValues (value : (setting : Setting) → setting.Value) (setting : Setting) :
    setting.get (ofValues value) = value setting := by
  cases setting <;> rfl

/-- Nothing else is set about the dashboard. -/
theorem eq_of_get_eq {settings others : DashboardSettings}
    (same : ∀ setting : Setting, setting.get settings = setting.get others) :
    settings = others := by
  obtain ⟨_, _, _, _, _, _⟩ := settings
  exact mk.injEq .. |>.mpr ⟨same .refreshInterval, same .pollTimeout, same .dispatchTimeout,
    same .requireSilencingReason, same .disableNoExpiration, same .retainStaleData⟩

/-- The settings are decoded where each of them is found under its key. -/
theorem decoder_eq_ok {settings : DashboardSettings} {bag : Bag}
    (ascending : Ascending Prod.fst bag)
    (found : ∀ setting : Setting,
      bag.get? setting.key = some (setting.write (setting.get settings)))
    (fits : ∀ setting : Setting, setting.Fits (setting.get settings)) :
    decoder .layers (.ofJson (.object bag)) = .ok settings := by
  have decoded : ∀ setting : Setting, setting.decoder .layers
      (.ofJson (setting.write (setting.get settings))) = .ok (setting.get settings) :=
    fun setting => Setting.decoder_write (fits setting)
  obtain ⟨_, _, _, _, _, _⟩ := settings
  refine (Record.closed_ofJson_eq_ok_iff (.field (.field (.field (.field (.field (.field
    (Record.checked_of mk))))))) ascending).mpr ?_
  refine Record.fromMembers_field_of_get? ?_ (found .retainStaleData) (decoded .retainStaleData)
  refine Record.fromMembers_field_of_get? ?_ (found .disableNoExpiration)
    (decoded .disableNoExpiration)
  refine Record.fromMembers_field_of_get? ?_ (found .requireSilencingReason)
    (decoded .requireSilencingReason)
  refine Record.fromMembers_field_of_get? ?_ (found .dispatchTimeout) (decoded .dispatchTimeout)
  refine Record.fromMembers_field_of_get? ?_ (found .pollTimeout) (decoded .pollTimeout)
  refine Record.fromMembers_field_of_get? ?_ (found .refreshInterval) (decoded .refreshInterval)
  rfl

end DashboardSettings

/-! ### Layers that speak about settings -/

/-- The names of the lists in a configuration. -/
def Config.lists : List String := ["datacenters", "roles"]

namespace Json

/-- A layer in which no setting of the dashboard and no list is a map, so that each of them hides
what lies below it. -/
structure Sheet (value : Json) : Prop where
  layer : value.Layer "dashboard"
  settings : ∀ (setting : Setting) found,
    value.under? ["dashboard", setting.key] = some found → found.Flat
  lists : ∀ part ∈ Config.lists, ∀ found, value.field? part = some found → found.Flat

namespace Sheet

variable {lower upper value : Json}

/-- Each setting is the upper one, or the lower one where there is no upper one. -/
theorem under?_merge (below : lower.Sheet) (above : upper.Sheet) (setting : Setting) :
    (lower.merge upper).under? ["dashboard", setting.key] =
      (upper.under? ["dashboard", setting.key]).or (lower.under? ["dashboard", setting.key]) := by
  rw [below.layer.under?_merge above.layer, seen_of_flat (above.settings setting)]

/-- The same for each list. -/
theorem field?_merge (below : lower.Sheet) (above : upper.Sheet) {part : String}
    (list : part ∈ Config.lists) :
    (lower.merge upper).field? part = (upper.field? part).or (lower.field? part) := by
  rw [below.layer.ordered.field?_merge above.layer.ordered, seen_of_flat (above.lists part list)]

theorem merge (below : lower.Sheet) (above : upper.Sheet) : (lower.merge upper).Sheet := by
  refine ⟨below.layer.merge above.layer, fun setting found there => ?_,
    fun part list found there => ?_⟩
  · rw [below.under?_merge above, Option.or_eq_some_iff] at there
    rcases there with upon | ⟨-, under⟩
    · exact above.settings setting found upon
    · exact below.settings setting found under
  · rw [below.field?_merge above list, Option.or_eq_some_iff] at there
    rcases there with upon | ⟨-, under⟩
    · exact above.lists part list found upon
    · exact below.lists part list found under

theorem tidy (sheet : value.Sheet) : value.tidy.Sheet := by
  refine ⟨sheet.layer.tidy, fun setting found there => ?_, fun part list found there => ?_⟩
  · rw [sheet.layer.under?_tidy] at there
    obtain ⟨untidy, held, rfl⟩ := Option.map_eq_some_iff.mp there
    exact (sheet.settings setting untidy held).tidy
  · rw [sheet.layer.ordered.field?_tidy] at there
    obtain ⟨untidy, held, rfl⟩ := Option.map_eq_some_iff.mp there
    exact (sheet.lists part list untidy held).tidy

end Sheet

/-- A sheet that is another one but for settings that are made in it. -/
structure Sets (lower upper : Json) (made : Setting → Option Json) : Prop where
  sheet : upper.Sheet
  settings : ∀ setting : Setting, upper.under? ["dashboard", setting.key] =
    (made setting).or (lower.under? ["dashboard", setting.key])
  lists : ∀ part ∈ Config.lists, upper.field? part = lower.field? part

namespace Sets

variable {lower middle upper : Json} {made later : Setting → Option Json}

theorem of_nothing (sheet : lower.Sheet) : Sets lower lower fun _ => none :=
  ⟨sheet, fun _ => Option.none_or.symm, fun _ _ => rfl⟩

/-- Settings that are made later come before those that were made earlier. -/
theorem trans (earlier : Sets lower middle made) (above : Sets middle upper later) :
    Sets lower upper fun setting => (later setting).or (made setting) := by
  refine ⟨above.sheet, fun setting => ?_, fun part list => ?_⟩
  · rw [above.settings, earlier.settings, Option.or_assoc]
  · rw [above.lists part list, earlier.lists part list]

/-- What sets nothing but these sets them in any sheet it lies above. -/
theorem merge (sets : Sets (.object []) upper made) (below : lower.Sheet) :
    Sets lower (lower.merge upper) made := by
  refine ⟨below.merge sets.sheet, fun setting => ?_, fun part list => ?_⟩
  · rw [below.under?_merge sets.sheet, sets.settings]
    exact congrArg (Option.or · _) (Option.or_none ..)
  · rw [below.field?_merge sets.sheet list, sets.lists part list]
    exact Option.none_or

end Sets

end Json

/-! ### The whole -/

/-- The entries that a list decodes to, one by one. -/
def Json.Decodes {α : Type} (decoder : Decoder α) (items : List Json) (entries : List α) : Prop :=
  List.Forall₂ (fun item entry => decoder .layers (.ofJson item) = .ok entry) items entries

theorem Json.Decodes.list {α : Type} {decoder : Decoder α} {items : List Json} {entries : List α}
    (decodes : Decodes decoder items entries) :
    decoder.list .layers (.ofJson (.array items)) = .ok entries := by
  refine Decoder.list_eq_ok_iff.mpr ⟨_, .closed, rfl, rfl, ?_⟩
  rw [Document.ofJsonItems_eq_map]
  exact List.forall₂_map_left_iff.mpr decodes

namespace Config

/-- A configuration is decoded from its settings, its datacenters and its roles. -/
theorem decoder_eq_ok {config : Config} {value : Json} (layer : value.Layer "dashboard")
    (settings : ∀ setting : Setting, value.under? ["dashboard", setting.key] =
      some (setting.write (setting.get config.dashboard)))
    (fits : ∀ setting : Setting, setting.Fits (setting.get config.dashboard))
    {datacenters roles : List Json}
    (datacentersFound : value.field? "datacenters" = some (.array datacenters))
    (datacentersDecode : Json.Decodes DatacenterEntry.decoder datacenters config.datacenters)
    (rolesFound : value.field? "roles" = some (.array roles))
    (rolesDecode : Json.Decodes RoleEntry.decoder roles config.roles) :
    decoder .layers (.ofJson value) = .ok config := by
  obtain ⟨part, there, -⟩ := Option.bind_eq_some_iff.mp
    ((Json.under?_pair ..).symm.trans (settings .refreshInterval))
  obtain ⟨inner, rfl, ascendingInner⟩ := layer.inner part there
  have found : ∀ setting : Setting,
      Bag.get? inner setting.key = some (setting.write (setting.get config.dashboard)) := by
    intro setting
    have seen := settings setting
    rw [Json.under?_pair, there] at seen
    exact seen
  obtain ⟨bag, rfl, ascending⟩ := layer.ordered
  obtain ⟨_, _, _⟩ := config
  refine (Record.closed_ofJson_eq_ok_iff (.field (.field (.field (Record.checked_of mk))))
    ascending).mpr ?_
  refine Record.fromMembers_field_of_get? ?_ rolesFound rolesDecode.list
  refine Record.fromMembers_field_of_get? ?_ datacentersFound datacentersDecode.list
  refine Record.fromMembers_field_of_get? ?_ there
    (DashboardSettings.decoder_eq_ok ascendingInner found fits)
  rfl

end Config

end FleetView
