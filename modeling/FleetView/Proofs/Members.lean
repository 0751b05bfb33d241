/-
This file is about decoding the members of an object into the fields of a record. The walk
over the members goes well exactly when every member passes on its own and no field is
named twice. What is left to tell is where the fields and the bag come from: a field is
the content of the member of its name, and the bag holds members whose names are no
fields, in order. The members that a value is written with are decoded to the value again
on these grounds.
-/

import Mathlib
import FleetView.Json.Record
import FleetView.Proofs.Values

namespace FleetView

/-! ### Decoders that turn something away -/

theorem unflawed_eq_ok_iff {flaw : Option Flaw} : unflawed flaw = .ok () ↔ flaw = none := by
  cases flaw with
  | none => exact iff_of_true rfl rfl
  | some flaw => exact iff_of_false nofun nofun

theorem Decoder.mismatch_ne_ok {α : Type} (expected : String) (content : Document) (value : α) :
    mismatch expected content ≠ .ok value := by
  rw [mismatch]
  split
  · exact nofun
  · exact nofun

theorem Decoder.json_eq_ok_iff {source : Source} {content : Document} {value : Json} :
    json source content = .ok value ↔ content.toJson = .ok value := by
  rw [json]
  cases content.toJson with
  | error flaw => exact iff_of_false nofun nofun
  | ok found => rw [Except.ok.injEq, Except.ok.injEq]

namespace Record

variable {α : Type} {record : Record α} {strangers : Strangers} {source : Source}
  {members : List (Except Flaw String × Document)} {ending : Ending} {name : String}

/-! ### The walk -/

/-- What the walk asks of a member on its own. -/
def Passes (record : Record α) (strangers : Strangers) (source : Source)
    (member : Except Flaw String × Document) : Prop :=
  ∃ name, member.1 = .ok name ∧
    if name ∈ record.names then record.check name source member.2 = .ok ()
    else stranger strangers member.2 = .ok ()

theorem passes_iff {content : Document} :
    record.Passes strangers source (.ok name, content) ↔
      if name ∈ record.names then record.check name source content = .ok ()
      else stranger strangers content = .ok () :=
  ⟨fun ⟨_, same, passes⟩ => Except.ok.inj same ▸ passes, fun passes => ⟨name, rfl, passes⟩⟩

/-- The fields that members name, as often as they do. -/
def fieldsNamed (record : Record α) (members : List (Except Flaw String × Document)) :
    List String :=
  members.filterMap fun member => member.1.toOption.filter (· ∈ record.names)

theorem fieldsNamed_cons_field {content : Document} (field : name ∈ record.names) :
    record.fieldsNamed ((.ok name, content) :: members) = name :: record.fieldsNamed members := by
  refine List.filterMap_cons_some ?_
  exact Option.filter_some_pos (decide_eq_true field)

theorem fieldsNamed_cons_stranger {content : Document} (unknown : name ∉ record.names) :
    record.fieldsNamed ((.ok name, content) :: members) = record.fieldsNamed members := by
  refine List.filterMap_cons_none ?_
  exact Option.filter_some_neg (decide_eq_false unknown)

/-- The walk goes well when every member passes and no field is named that was named before. -/
theorem walk_eq_ok_iff {seen : List String} :
    record.walk strangers source seen members = .ok () ↔
      (∀ member ∈ members, record.Passes strangers source member) ∧
        (record.fieldsNamed members).Nodup ∧
          ∀ field ∈ record.fieldsNamed members, field ∉ seen := by
  -- What has been seen grows on the way, so this is shown for any names seen before.
  induction members generalizing seen with
  | nil => exact iff_of_true rfl ⟨nofun, List.nodup_nil, nofun⟩
  | cons member rest inductionHypothesis =>
    obtain ⟨name, content⟩ := member
    cases name with
    | error flaw =>
      refine iff_of_false nofun fun ⟨passes, _⟩ => ?_
      obtain ⟨_, clash, _⟩ := passes _ List.mem_cons_self
      cases clash
    | ok name =>
      rw [walk, List.forall_mem_cons, passes_iff]
      by_cases field : name ∈ record.names
      · rw [if_pos field, if_pos field, fieldsNamed_cons_field field, List.nodup_cons,
          List.forall_mem_cons]
        by_cases repeated : name ∈ seen
        · rw [if_pos repeated]
          exact iff_of_false nofun fun ⟨_, _, fresh, _⟩ => fresh repeated
        · rw [if_neg repeated, bind_eq_ok_iff]
          constructor
          · rintro ⟨⟨⟩, checked, walked⟩
            obtain ⟨passes, apart, fresh⟩ := inductionHypothesis.mp walked
            refine ⟨⟨checked, passes⟩, ⟨fun again => ?_, apart⟩, repeated, fun other named => ?_⟩
            · exact fresh name again List.mem_cons_self
            · exact fun old => fresh other named (List.mem_cons_of_mem _ old)
          · rintro ⟨⟨checked, passes⟩, ⟨once, apart⟩, -, fresh⟩
            refine ⟨(), checked, inductionHypothesis.mpr ⟨passes, apart, ?_⟩⟩
            intro other named met
            rcases List.mem_cons.mp met with same | old
            · exact once (same ▸ named)
            · exact fresh other named old
      · rw [if_neg field, if_neg field, fieldsNamed_cons_stranger field, bind_eq_ok_iff]
        constructor
        · rintro ⟨⟨⟩, passed, walked⟩
          obtain ⟨passes, others⟩ := inductionHypothesis.mp walked
          exact ⟨⟨passed, passes⟩, others⟩
        · rintro ⟨⟨passed, passes⟩, others⟩
          exact ⟨(), passed, inductionHypothesis.mpr ⟨passes, others⟩⟩

/-! ### Looking up -/

theorem mem_of_lookup_eq_some {content : Document} (found : lookup members name = some content) :
    (.ok name, content) ∈ members := by
  induction members with
  | nil => cases found
  | cons member rest inductionHypothesis =>
    obtain ⟨other, held⟩ := member
    cases other with
    | error flaw => exact List.mem_cons_of_mem _ (inductionHypothesis found)
    | ok other =>
      rw [lookup] at found
      split at found
      · rename_i same
        rw [← Option.some.inj found, ← same]
        exact List.mem_cons_self
      · exact List.mem_cons_of_mem _ (inductionHypothesis found)

theorem lookup_eq_some_of_mem {content : Document} (distinct : (record.fieldsNamed members).Nodup)
    (field : name ∈ record.names) (member : (.ok name, content) ∈ members) :
    lookup members name = some content := by
  induction members with
  | nil => cases member
  | cons head rest inductionHypothesis =>
    obtain ⟨other, held⟩ := head
    cases other with
    | error flaw =>
      exact inductionHypothesis distinct ((List.mem_cons.mp member).resolve_left nofun)
    | ok other =>
      rw [lookup]
      by_cases known : other ∈ record.names
      · rw [fieldsNamed_cons_field known, List.nodup_cons] at distinct
        rcases List.mem_cons.mp member with same | behind
        · cases same
          exact if_pos rfl
        · have named : name ∈ record.fieldsNamed rest :=
            List.mem_filterMap.mpr ⟨_, behind, Option.filter_some_pos (decide_eq_true field)⟩
          have differs : other ≠ name := fun same => distinct.1 (same ▸ named)
          rw [if_neg differs]
          exact inductionHypothesis distinct.2 behind
      · rw [fieldsNamed_cons_stranger known] at distinct
        have differs : other ≠ name := fun same => known (same ▸ field)
        rw [if_neg differs]
        refine inductionHypothesis distinct ((List.mem_cons.mp member).resolve_left ?_)
        exact fun same => differs (Except.ok.inj (Prod.mk.inj same).1).symm

/-- A field is the content of its member, or what stands for it where there is none. -/
theorem member_eq_ok_iff {absence : Absence α} {decoder : Decoder α}
    {find : String → Option Document} {value : α} :
    Record.member name absence decoder source find = .ok value ↔
      (∃ content, find name = some content ∧ decoder source content = .ok value) ∨
        find name = none ∧ absence.inObject = some value := by
  unfold Record.member
  cases find name with
  | some content => simp [mapError_eq_ok_iff]
  | none =>
    cases absence.inObject with
    | some default => simp
    | none => exact iff_of_false nofun nofun

/-! ### The whole object -/

theorem decodeObject_eq_ok_iff {value : α} :
    record.decodeObject strangers source members ending = .ok value ↔
      record.walk strangers source [] members = .ok () ∧ ending.inObject = none ∧
        record.fromMembers source (lookup members) = .ok value := by
  rw [decodeObject, bind_eq_ok_iff]
  constructor
  · rintro ⟨⟨⟩, walked, rest⟩
    obtain ⟨⟨⟩, closed, built⟩ := bind_eq_ok_iff.mp rest
    exact ⟨walked, unflawed_eq_ok_iff.mp closed, built⟩
  · rintro ⟨walked, closed, built⟩
    exact ⟨(), walked, bind_eq_ok_iff.mpr ⟨(), unflawed_eq_ok_iff.mpr closed, built⟩⟩

theorem opened_eq_ok_iff {record : Record (Bag → α)} {title : String} {content : Document}
    {value : α} :
    record.opened title source content = .ok value ↔
      ∃ members ending build, content = .object members ending ∧
        record.decodeObject .kept source members ending = .ok build ∧
        value = build (record.strangers members) := by
  constructor
  · intro decoded
    rw [opened.eq_def] at decoded
    split at decoded
    · obtain ⟨build, made, same⟩ := bind_eq_ok_iff.mp decoded
      exact ⟨_, _, build, rfl, made, (Except.ok.inj same).symm⟩
    · cases decoded
    · exact absurd decoded (Decoder.mismatch_ne_ok _ _ _)
  · rintro ⟨members, ending, build, rfl, made, rfl⟩
    exact bind_eq_ok_iff.mpr ⟨build, made, rfl⟩

/-- A closed record is spelled as an object or as an array of the fields. -/
theorem eq_of_closed_eq_ok {title : String} {content : Document} {value : α}
    (decoded : record.closed title source content = .ok value) :
    (∃ members ending, content = .object members ending ∧
        record.decodeObject .passedOver source members ending = .ok value) ∨
      ∃ items ending queue, content = .array items ending ∧
        record.fromItems source ⟨items, ending, 0, record.arrayTitle title⟩ =
          .ok (value, queue) := by
  rw [closed.eq_def] at decoded
  split at decoded
  · exact Or.inl ⟨_, _, rfl, decoded⟩
  · obtain ⟨⟨found, queue⟩, taken, rest⟩ := bind_eq_ok_iff.mp decoded
    obtain ⟨⟨⟩, -, same⟩ := bind_eq_ok_iff.mp rest
    exact Or.inr ⟨_, _, queue, rfl, Except.ok.inj same ▸ taken⟩
  · cases decoded
  · cases decoded
  · exact absurd decoded (Decoder.mismatch_ne_ok _ _ _)

/-! ### The bag -/

theorem ascending_strangers : Ascending Prod.fst (record.strangers members) :=
  Bag.ascending_ofMembers _

/-- What is in the bag comes from a member whose name is no field. -/
theorem of_mem_strangers {entry : String × Json} (held : entry ∈ record.strangers members) :
    entry.1 ∉ record.names ∧
      ∃ member ∈ members, member.1 = .ok entry.1 ∧ member.2.toJson = .ok entry.2 := by
  obtain ⟨⟨name, content⟩, listed, kept⟩ :=
    List.mem_filterMap.mp (Bag.mem_of_mem_ofMembers held)
  cases name with
  | error flaw => cases kept
  | ok name =>
    dsimp only at kept
    split at kept
    · cases kept
    · rename_i unknown
      cases walked : content.toJson with
      | error flaw =>
        rw [walked] at kept
        cases kept
      | ok value =>
        rw [walked] at kept
        cases kept
        exact ⟨unknown, _, listed, rfl, walked⟩

/-- What the bag takes of a member. -/
def taken? (record : Record α) : Except Flaw String × Document → Option (String × Json)
  | (.ok name, content) =>
    if name ∈ record.names then none else content.toJson.toOption.map fun value => (name, value)
  | (.error _, _) => none

theorem strangers_eq : record.strangers members = Bag.ofMembers (members.filterMap record.taken?) :=
  rfl

theorem taken?_eq_none {content : Document} (field : name ∈ record.names) :
    record.taken? (.ok name, content) = none :=
  if_pos field

theorem taken?_eq_some {content : Document} {value : Json} (unknown : name ∉ record.names)
    (walked : content.toJson = .ok value) :
    record.taken? (.ok name, content) = some (name, value) := by
  rw [taken?, if_neg unknown, walked]
  rfl

/-- The bag has what the last member of an unknown name comes to. -/
theorem get?_strangers (passes : ∀ member ∈ members, record.Passes .kept source member)
    (unknown : name ∉ record.names) :
    (record.strangers members).get? name =
      (lookup members.reverse name).bind fun content => content.toJson.toOption := by
  rw [strangers_eq, Bag.get?_ofMembers, ← List.filterMap_reverse]
  have passes : ∀ member ∈ members.reverse, record.Passes .kept source member :=
    fun member listed => passes member (List.mem_reverse.mp listed)
  revert passes
  generalize members.reverse = members
  intro passes
  induction members with
  | nil => rfl
  | cons member rest inductionHypothesis =>
    obtain ⟨own, others⟩ := List.forall_mem_cons.mp passes
    obtain ⟨held, content⟩ := member
    cases held with
    | error flaw =>
      obtain ⟨_, clash, -⟩ := own
      cases clash
    | ok other =>
      rw [lookup]
      by_cases field : other ∈ record.names
      · have differs : other ≠ name := fun same => unknown (same ▸ field)
        rw [if_neg differs, List.filterMap_cons_none (taken?_eq_none field)]
        exact inductionHypothesis others
      · have passed := passes_iff.mp own
        rw [if_neg field] at passed
        obtain ⟨value, decoded, -⟩ := map_eq_ok_iff.mp passed
        have walked := Decoder.json_eq_ok_iff.mp decoded
        rw [List.filterMap_cons_some (taken?_eq_some field walked), Bag.get?_cons]
        by_cases same : other = name
        · rw [if_pos same, if_pos same, Option.bind_some, walked]
          rfl
        · rw [if_neg same, if_neg same]
          exact inductionHypothesis others

end Record

end FleetView
