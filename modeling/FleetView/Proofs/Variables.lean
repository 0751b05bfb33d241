/-
This file is about variables of the environment that make settings. The text of a variable
that spells a number stands for it, and each setting of the dashboard has a variable of its
own. Such variables are laid one above the other: a setting is what its variable says, and
other variables leave it alone, as long as they lead to no part of a configuration.
-/

import FleetView.Config.Layers
import FleetView.Proofs.Joining
import FleetView.Proofs.Literals
import FleetView.Proofs.Repeats
import FleetView.Proofs.Settings

namespace FleetView

/-! ### Texts -/

namespace Variable

theorem exists_digitChar {char : Char} (digit : char.isDigit = true) :
    ∃ value < 10, Nat.digitChar value = char := by
  have bounds : 48 ≤ char.toNat ∧ char.toNat ≤ 57 := Char.isDigit_iff_toNat.mp digit
  have written : ∀ code < 58, 48 ≤ code → Nat.digitChar (code - 48) = Char.ofNat code := by decide
  refine ⟨char.toNat - 48, by omega, ?_⟩
  rw [written char.toNat (by omega) bounds.1, Char.ofNat_toNat]

/-- A digit is no mark of anything else. -/
theorem plain_of_isDigit {char : Char} (digit : char.isDigit = true) :
    isSpace char = false ∧ isSeparator char = false ∧ Text.isBlank char = false ∧
      char ∉ ['t', 'f', '"', '\'', '-', '+', '.'] := by
  obtain ⟨value, small, rfl⟩ := exists_digitChar digit
  revert value
  decide

theorem digitsValue_eq_sum {text : List Char} (digital : ∀ char ∈ text, char.isDigit = true) :
    Toml.digitsValue 10 text = Numeral.sum 0 (text.map Numeral.digit) := by
  have known : ∀ value < 10, (JsonText.hexValue? (Nat.digitChar value)).getD 0 =
      Numeral.digit (Nat.digitChar value) := by decide
  rw [Toml.digitsValue, Numeral.sum, List.foldl_map]
  refine List.foldl_ext _ _ _ fun before char listed => ?_
  obtain ⟨value, small, rfl⟩ := exists_digitChar (digital char listed)
  rw [known value small]

/-- Nothing is dropped from the front of a text in which there is nothing to drop. -/
theorem dropWhile_of_none {drops : Char → Bool} {text : List Char}
    (none : ∀ char ∈ text, drops char = false) : text.dropWhile drops = text :=
  List.dropWhile_eq_self_iff.mpr fun _ => ne_true_of_eq_false (none _ (List.getElem_mem _))

section

variable {text : List Char} (filled : text ≠ []) (digital : ∀ char ∈ text, char.isDigit = true)
  (fits : Toml.digitsValue 10 text < Word.count 64)

include filled digital fits

theorem ofPlain_of_digits : ofPlain text = .nat (Toml.digitsValue 10 text) := by
  have differs : ∀ char ∈ text, char ∉ ['t', 'f', '"', '\'', '-', '+', '.'] := fun char listed =>
    (plain_of_isDigit (digital char listed)).2.2.2
  have natural : integer?.natural? text = some (.nat (Toml.digitsValue 10 text)) := by
    rw [integer?.natural?, digits?, if_pos ⟨filled, List.all_eq_true.mpr digital⟩,
      Option.bind_some, if_pos fits]
  have integer : integer? text = some (.nat (Toml.digitsValue 10 text)) := by
    rw [integer?, natural]
    · rintro rest rfl
      exact absurd (differs '-' List.mem_cons_self) (by decide)
    · rintro rest rfl
      exact absurd (differs '+' List.mem_cons_self) (by decide)
  have noPoint : '.' ∉ text := fun point => absurd (differs '.' point) (by decide)
  rw [ofPlain, if_neg noPoint, Option.none_or, integer]
  rfl

/-- A text of digits stands for the number they add up to. -/
theorem setting_of_digits :
    setting (String.ofList text) = .nat (Toml.digitsValue 10 text) := by
  have plain := fun char listed => plain_of_isDigit (digital char listed)
  have unspaced : skipSpace text = text :=
    dropWhile_of_none fun char listed => (plain char listed).1
  have found : text.takeWhile (fun char => !isSeparator char) = text := by
    refine List.takeWhile_eq_self_iff.mpr fun char listed => ?_
    rw [(plain char listed).2.1, Bool.not_false]
  have trimmed : Text.trimBoth Text.isBlank text = text := by
    have seen : ∀ char ∈ text, Text.isBlank char = false := fun char listed =>
      (plain char listed).2.2.1
    rw [Text.trimBoth, dropWhile_of_none seen, dropWhile_of_none fun char listed =>
      seen char (List.mem_reverse.mp listed), List.reverse_reverse]
  have scanned : scanValue (text.length + 1) text =
      some (.nat (Toml.digitsValue 10 text), []) := by
    rw [scanValue, unspaced]
    split
    · exact absurd (plain 't' List.mem_cons_self).2.2.2 (by decide)
    · exact absurd (plain 'f' List.mem_cons_self).2.2.2 (by decide)
    · exact absurd (plain _ List.mem_cons_self).2.1 (by decide)
    · exact absurd (plain _ List.mem_cons_self).2.1 (by decide)
    · exact absurd (plain '"' List.mem_cons_self).2.2.2 (by decide)
    · exact absurd (plain '\'' List.mem_cons_self).2.2.2 (by decide)
    · simp only [found, trimmed, ofPlain_of_digits filled digital fits, List.drop_length]
      rfl
  rw [setting, String.toList_ofList, scanned]

end

/-- A numeral stands for its number. -/
theorem setting_repr {value : Nat} (fits : value < Word.count 64) :
    setting (Nat.repr value) = .nat value := by
  have digital : ∀ char ∈ Nat.toDigits 10 value, char.isDigit = true := fun _ listed =>
    Nat.isDigit_of_mem_toDigits (by decide) (by decide) listed
  have same : Toml.digitsValue 10 (Nat.toDigits 10 value) = value :=
    (digitsValue_eq_sum digital).trans (Numeral.sum_toDigits value)
  have read := setting_of_digits Nat.toDigits_ne_nil digital (same.symm ▸ fits)
  rwa [same] at read

end Variable

namespace Setting

/-- The text of a variable that stands for the value. -/
def text : (setting : Setting) → setting.Value → String
  | .refreshInterval, value | .pollTimeout, value | .dispatchTimeout, value => Nat.repr value
  | .requireSilencingReason, value | .disableNoExpiration, value | .retainStaleData, value =>
    if value then "true" else "false"

/-- Every value of a setting can be given by a variable. -/
theorem setting_text {setting : Setting} {value : setting.Value} (fits : setting.Fits value) :
    Variable.setting (setting.text value) = setting.write value := by
  have truth : ∀ value : Bool, Variable.setting (if value then "true" else "false") =
      .bool value := by decide +kernel
  cases setting with
  | refreshInterval | pollTimeout | dispatchTimeout => exact Variable.setting_repr fits
  | requireSilencingReason | disableNoExpiration | retainStaleData => exact truth value

end Setting

/-! ### Names -/

namespace Setting

/-- The variable that makes the setting. -/
def variableName (setting : Setting) : String :=
  "VANTAGE_DASHBOARD__" ++ String.ofList (setting.key.toList.map Char.toUpper)

example : pollTimeout.variableName = "VANTAGE_DASHBOARD__POLL_TIMEOUT_SECS" := by decide

variable {setting other : Setting}

theorem path?_variableName (setting : Setting) :
    Variable.path? setting.variableName = some ["dashboard", setting.key] := by
  cases setting <;> decide +kernel

theorem variableName_injective (same : setting.variableName = other.variableName) :
    setting = other := by
  have paths := congrArg Variable.path? same
  rw [path?_variableName, path?_variableName, Option.some.injEq] at paths
  exact key_injective (List.cons.inj (List.cons.inj paths).2).1

end Setting

namespace Variable

theorem path?_ne_nil (name : String) : path? name ≠ some [] := by
  intro found
  rw [path?] at found
  dsimp only at found
  split_ifs at found
  rw [Option.some.injEq, List.map_eq_nil_iff, Text.splitOn_eq] at found
  exact List.splitOn_ne_nil _ _ found

/-- A name that leads to no part of a configuration. -/
def Foreign (name : String) : Prop :=
  ∀ part path, path? name = some (part :: path) → part ∉ "dashboard" :: Config.lists

/-- What a variable amounts to, if its name leads anywhere. -/
def layer? (name text : String) : Option Json := (path? name).map (nest (setting text))

/-- A variable that makes a setting of the dashboard, or that is there for another purpose. -/
inductive Known (name text : String) : Prop where
  | dashboard (setting : Setting) (named : setting.variableName = name)
      (flat : (Variable.setting text).Flat)
  | foreign (elsewhere : Foreign name)

/-- The setting that a variable makes. -/
def made (name text : String) (setting : Setting) : Option Json :=
  if setting.variableName = name then some (Variable.setting text) else none

variable {name text : String} {layer : Json}

/-- A variable of another purpose makes no setting. -/
theorem Foreign.made_eq_none (foreign : Foreign name) (setting : Setting) :
    made name text setting = none := by
  refine if_neg ?_
  rintro rfl
  exact foreign _ _ (Setting.path?_variableName setting) List.mem_cons_self

theorem Foreign.sets (foreign : Foreign name) (there : layer? name text = some layer) :
    Json.Sets (.object []) layer (made name text) := by
  obtain ⟨path, found, rfl⟩ := Option.map_eq_some_iff.mp there
  cases path with
  | nil => exact absurd found (path?_ne_nil name)
  | cons part path =>
    have elsewhere : ∀ asked ∈ "dashboard" :: Config.lists,
        (nest (setting text) (part :: path)).field? asked = none := by
      intro asked listed
      refine (Bag.get?_cons ..).trans (if_neg fun same => ?_)
      exact foreign part path found (same ▸ listed)
    have silent := elsewhere "dashboard" List.mem_cons_self
    have unlisted := fun part listed => elsewhere part (List.mem_cons_of_mem _ listed)
    have unset : ∀ setting : Setting,
        (nest (Variable.setting text) (part :: path)).under? ["dashboard", setting.key] = none := by
      intro setting
      rw [Json.under?_pair, silent, Option.bind_none]
    refine ⟨⟨⟨⟨_, rfl, List.pairwise_singleton _ _⟩, ?_⟩, ?_, ?_⟩, fun setting => ?_, unlisted⟩
    · exact fun inner found => nomatch silent.symm.trans found
    · exact fun setting _ found => nomatch (unset setting).symm.trans found
    · exact fun part listed _ found => nomatch (unlisted part listed).symm.trans found
    · rw [unset, foreign.made_eq_none]
      rfl

/-- The variable of a setting makes that setting and does nothing else. -/
theorem sets_variableName {setting : Setting} (flat : (Variable.setting text).Flat)
    (there : layer? setting.variableName text = some layer) :
    Json.Sets (.object []) layer (made setting.variableName text) := by
  have only : Json.object [("dashboard", .object [(setting.key, Variable.setting text)])] =
      layer := by
    rw [layer?, Setting.path?_variableName] at there
    exact Option.some.inj there
  have unlisted : ∀ part ∈ Config.lists, layer.field? part = none := by
    rintro part listed
    rw [← only]
    refine (Bag.get?_cons ..).trans (if_neg ?_)
    rintro rfl
    exact absurd listed (by decide)
  have inner : ∀ other : Setting, layer.under? ["dashboard", other.key] =
      made setting.variableName text other := by
    intro other
    rw [← only, Json.under?_pair, made]
    refine (Bag.get?_cons ..).trans (if_congr ⟨fun same => ?_, fun same => ?_⟩ rfl rfl)
    · rw [Setting.key_injective same]
    · rw [Setting.variableName_injective same]
  refine ⟨⟨⟨?_, fun part found => ?_⟩, fun other found there => ?_, ?_⟩, fun other => ?_, unlisted⟩
  · exact only ▸ ⟨_, rfl, List.pairwise_singleton _ _⟩
  · rw [← only] at found
    cases found
    exact ⟨_, rfl, List.pairwise_singleton _ _⟩
  · rw [inner, made, Option.ite_none_right_eq_some] at there
    exact Option.some.inj there.2 ▸ flat
  · exact fun part listed _ found => nomatch (unlisted part listed).symm.trans found
  · rw [inner]
    exact (Option.or_none ..).symm

end Variable

/-! ### One variable above the other -/

namespace Environment

/-- What is seen when a variable lies above a layer. -/
def above (lower : Json) (entry : String × String) : Json :=
  ((Variable.layer? entry.1 entry.2).map lower.merge).getD lower

theorem settings_eq_foldl (environment : Environment) :
    environment.settings = environment.foldl above (.object []) := by
  rw [settings]
  refine List.foldl_ext _ _ _ fun lower entry _ => ?_
  obtain ⟨name, text⟩ := entry
  dsimp only [above, Variable.layer?]
  cases Variable.path? name <;> rfl

theorem get?_cons (name text : String) (rest : Environment) (asked : String) :
    get? ((name, text) :: rest) asked = if name = asked then some text else get? rest asked :=
  value?_cons name text rest asked

variable {lower : Json} {environment : Environment}

theorem get?_eq_none {asked : String} (absent : asked ∉ environment.map Prod.fst) :
    environment.get? asked = none :=
  value?_eq_none absent

theorem get?_of_mem (once : (environment.map Prod.fst).Nodup) {name text : String}
    (listed : (name, text) ∈ environment) : environment.get? name = some text := by
  rw [get?, (find?_eq_some_iff_of_nodup once).mpr ⟨listed, rfl⟩]
  rfl

/-- One variable more makes its setting and leaves the others and the lists as they were. -/
theorem sets_above {name text : String} (known : Variable.Known name text) (sheet : lower.Sheet) :
    lower.Sets (above lower (name, text)) (Variable.made name text) := by
  rw [above]
  cases there : Variable.layer? name text with
  | some layer =>
    cases known with
    | dashboard setting named flat =>
      subst named
      exact (Variable.sets_variableName flat there).merge sheet
    | foreign elsewhere => exact (elsewhere.sets there).merge sheet
  | none =>
    have unmade : Variable.made name text = fun _ => none := by
      funext setting
      refine if_neg ?_
      rintro rfl
      rw [Variable.layer?, Setting.path?_variableName] at there
      cases there
    rw [unmade]
    exact .of_nothing sheet

/-- All variables together make the settings whose variables are there. -/
theorem sets_foldl (known : ∀ entry ∈ environment, Variable.Known entry.1 entry.2)
    (once : (environment.map Prod.fst).Nodup) (sheet : lower.Sheet) :
    lower.Sets (environment.foldl above lower) fun setting =>
      (environment.get? setting.variableName).map Variable.setting := by
  -- The first variable lies lowest; what the others make is above it and comes before it.
  induction environment generalizing lower with
  | nil => exact .of_nothing sheet
  | cons entry rest inductionHypothesis =>
    obtain ⟨name, text⟩ := entry
    obtain ⟨first, others⟩ := List.forall_mem_cons.mp known
    obtain ⟨apart, different⟩ := List.nodup_cons.mp once
    have step := sets_above first sheet
    have whole := step.trans (inductionHypothesis others different step.sheet)
    have same : (fun setting => ((Environment.get? rest setting.variableName).map
        Variable.setting).or (Variable.made name text setting)) = fun setting =>
          (Environment.get? ((name, text) :: rest) setting.variableName).map Variable.setting := by
      funext setting
      rw [get?_cons, Variable.made]
      by_cases named : name = setting.variableName
      · rw [if_pos named, if_pos named.symm, get?_eq_none (named ▸ apart)]
        rfl
      · rw [if_neg named, if_neg (Ne.symm named), Option.or_none]
    rwa [same] at whole

end Environment

end FleetView
