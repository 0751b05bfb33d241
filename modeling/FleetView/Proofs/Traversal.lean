/-
This file is about computations that may fail. One step after another goes well when
both do. Going through a list ends with the first failure, so where nothing has failed
each item has come to a result of its own, in the order of the list.
-/

import Mathlib

namespace FleetView

/-! ### Steps -/

section

variable {α β ε δ : Type}

theorem bind_eq_ok_iff {first : Except ε α} {next : α → Except ε β} {result : β} :
    (first >>= next) = .ok result ↔ ∃ value, first = .ok value ∧ next value = .ok result := by
  cases first with
  | error flaw => exact iff_of_false nofun fun ⟨_, clash, _⟩ => nomatch clash
  | ok value =>
    constructor
    · exact fun done => ⟨value, rfl, done⟩
    · rintro ⟨_, same, done⟩
      rwa [← Except.ok.inj same] at done

theorem map_eq_ok_iff {first : Except ε α} {change : α → β} {result : β} :
    first.map change = .ok result ↔ ∃ value, first = .ok value ∧ change value = result := by
  cases first with
  | error flaw => exact iff_of_false nofun fun ⟨_, clash, _⟩ => nomatch clash
  | ok value =>
    constructor
    · exact fun done => ⟨value, rfl, Except.ok.inj done⟩
    · rintro ⟨_, same, rfl⟩
      rw [← Except.ok.inj same]
      rfl

theorem mapError_eq_ok_iff {first : Except ε α} {change : ε → δ} {result : α} :
    first.mapError change = .ok result ↔ first = .ok result := by
  cases first with
  | error flaw => exact iff_of_false nofun nofun
  | ok value => rw [Except.mapError, Except.ok.injEq, Except.ok.injEq]

end

theorem eq_ok_of_toOption_eq_some {ε α : Type} {result : Except ε α} {value : α}
    (found : result.toOption = some value) : result = .ok value := by
  cases result with
  | error flaw => cases found
  | ok other => rw [Option.some.inj found]

/-! ### Lists -/

/-- Going through a list goes well exactly when it goes well for each item. -/
theorem mapM_eq_ok_iff {α β ε : Type} {step : α → Except ε β} {items : List α}
    {results : List β} :
    items.mapM step = .ok results ↔
      List.Forall₂ (fun item result => step item = .ok result) items results := by
  induction items generalizing results with
  | nil =>
    rw [List.mapM_nil, List.forall₂_nil_left_iff]
    exact ⟨fun same => (Except.ok.inj same).symm, fun same => same ▸ rfl⟩
  | cons item rest inductionHypothesis =>
    rw [List.mapM_cons, List.forall₂_cons_left_iff]
    cases first : step item with
    | error flaw => exact ⟨nofun, fun ⟨_, _, ok, _⟩ => nomatch ok⟩
    | ok result =>
      cases others : rest.mapM step with
      | error flaw =>
        refine ⟨nofun, fun ⟨_, more, _, fine, _⟩ => ?_⟩
        rw [inductionHypothesis.mpr fine] at others
        cases others
      | ok more =>
        constructor
        · intro same
          exact ⟨result, more, rfl, inductionHypothesis.mp others, (Except.ok.inj same).symm⟩
        · rintro ⟨_, _, ok, fine, rfl⟩
          have rest := Except.ok.inj (others.symm.trans (inductionHypothesis.mpr fine))
          rw [← Except.ok.inj ok, ← rest]
          rfl

/-- The failure that going through a list ends with is that of one of its items. -/
theorem exists_of_mapM_eq_error {α β ε : Type} {step : α → Except ε β} {items : List α} {flaw : ε}
    (failed : items.mapM step = .error flaw) : ∃ item ∈ items, step item = .error flaw := by
  induction items with
  | nil => cases failed
  | cons item rest inductionHypothesis =>
    rw [List.mapM_cons] at failed
    cases first : step item with
    | error found =>
      rw [first] at failed
      cases failed
      exact ⟨item, List.mem_cons_self, first⟩
    | ok result =>
      cases others : rest.mapM step with
      | error found =>
        rw [first, others] at failed
        cases failed
        obtain ⟨later, member, same⟩ := inductionHypothesis others
        exact ⟨later, List.mem_cons_of_mem _ member, same⟩
      | ok more =>
        rw [first, others] at failed
        cases failed

/-- Lists whose items agree one by one in what is taken of them agree in that as a whole. -/
theorem map_eq_of_forall₂ {α β γ : Type} {one : α → γ} {other : β → γ} {items : List α}
    {results : List β} (matched : List.Forall₂ (fun item result => one item = other result)
      items results) : items.map one = results.map other := by
  rwa [← List.forall₂_eq_eq_eq, List.forall₂_map_left_iff, List.forall₂_map_right_iff]

/-- Where it goes well for each item there is a result of the whole. -/
theorem exists_mapM_eq_ok {α β ε : Type} {step : α → Except ε β} {items : List α}
    (each : ∀ item ∈ items, ∃ result, step item = .ok result) :
    ∃ results, items.mapM step = .ok results := by
  induction items with
  | nil => exact ⟨[], rfl⟩
  | cons item rest inductionHypothesis =>
    obtain ⟨first, done⟩ := each item List.mem_cons_self
    obtain ⟨others, all⟩ := inductionHypothesis fun later member =>
      each later (List.mem_cons_of_mem _ member)
    exact ⟨first :: others, mapM_eq_ok_iff.mpr (.cons done (mapM_eq_ok_iff.mp all))⟩

/-- Where all went well, every item has come to one of the results. -/
theorem exists_of_mapM_eq_ok {α β ε : Type} {step : α → Except ε β} {items : List α}
    {results : List β} (done : items.mapM step = .ok results) {item : α} (member : item ∈ items) :
    ∃ result ∈ results, step item = .ok result := by
  have matched := mapM_eq_ok_iff.mp done
  induction matched with
  | nil => exact absurd member List.not_mem_nil
  | cons first others inductionHypothesis =>
    rcases List.mem_cons.mp member with rfl | behind
    · exact ⟨_, List.mem_cons_self, first⟩
    · obtain ⟨result, there, found⟩ := inductionHypothesis (mapM_eq_ok_iff.mpr others) behind
      exact ⟨result, List.mem_cons_of_mem _ there, found⟩

/-- What has been matched with something in a list is matched with one of its items. -/
theorem exists_left_of_forall₂ {α β : Type} {relation : α → β → Prop} {items : List α}
    {results : List β} (matched : List.Forall₂ relation items results) {result : β}
    (member : result ∈ results) : ∃ item ∈ items, relation item result := by
  induction matched with
  | nil => exact absurd member List.not_mem_nil
  | cons first _ inductionHypothesis =>
    rcases List.mem_cons.mp member with rfl | behind
    · exact ⟨_, List.mem_cons_self, first⟩
    · obtain ⟨item, there, found⟩ := inductionHypothesis behind
      exact ⟨item, List.mem_cons_of_mem _ there, found⟩

/-- What comes of items that belong together belongs together, if it does so for each of them. -/
theorem forall₂_of_forall₂ {α β γ δ : Type} {together : α → β → Prop} {comes : α → γ → Prop}
    {otherComes : β → δ → Prop} {results : γ → δ → Prop}
    (each : ∀ item other result otherResult, together item other → comes item result →
      otherComes other otherResult → results result otherResult)
    {items : List α} {others : List β} {made : List γ} {otherMade : List δ}
    (matched : List.Forall₂ together items others) (fromItems : List.Forall₂ comes items made)
    (fromOthers : List.Forall₂ otherComes others otherMade) :
    List.Forall₂ results made otherMade := by
  induction matched generalizing made otherMade with
  | nil =>
    cases fromItems
    cases fromOthers
    exact .nil
  | cons first _ inductionHypothesis =>
    cases fromItems with
    | cons here behind =>
      cases fromOthers with
      | cons otherHere otherBehind =>
        exact .cons (each _ _ _ _ first here otherHere) (inductionHypothesis behind otherBehind)

/-- Going through a list without changing anything gives back the list. -/
theorem mapM_eq_ok_self {α ε : Type} {step : α → Except ε α} {items : List α}
    (fine : ∀ item ∈ items, step item = .ok item) : items.mapM step = .ok items :=
  mapM_eq_ok_iff.mpr (List.forall₂_same.mpr fine)

end FleetView
