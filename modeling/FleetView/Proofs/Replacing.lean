/-
This file is about what one member of a document decides. Two documents that differ in
what stands under one name are read alike as far as the fields behind other names go. So
where one of them is decoded by an open record, the other one is decoded exactly when
what stands under the name can be, and to the same value but for that field.
-/

import FleetView.Proofs.Members

namespace FleetView

namespace Record

variable {α β : Type} {members : List (Except Flaw String × Document)} {name : String}
  {change : Document → Document}

/-! ### Members that are changed -/

/-- The members with what stands under a name changed. -/
def changed (name : String) (change : Document → Document)
    (members : List (Except Flaw String × Document)) : List (Except Flaw String × Document) :=
  members.map fun member =>
    (member.1, if member.1.toOption = some name then change member.2 else member.2)

/-- Something else is found under the name that is changed, and the same under every other. -/
theorem lookup_changed (other : String) :
    lookup (changed name change members) other =
      (lookup members other).map fun content =>
        if other = name then change content else content := by
  induction members with
  | nil => rfl
  | cons member rest inductionHypothesis =>
    obtain ⟨held, content⟩ := member
    cases held with
    | error flaw => exact inductionHypothesis
    | ok found =>
      show (if found = other then _ else lookup (changed name change rest) other) =
        (if found = other then some content else lookup rest other).map _
      by_cases same : found = other
      · rw [if_pos same, if_pos same, same]
        simp [Except.toOption]
      · rw [if_neg same, if_neg same, inductionHypothesis]

theorem fieldsNamed_changed (record : Record β) :
    record.fieldsNamed (changed name change members) = record.fieldsNamed members := by
  rw [fieldsNamed, changed, List.filterMap_map]
  rfl

/-- What stands under the name of a field is not kept in the bag. -/
theorem strangers_changed {record : Record β} (field : name ∈ record.names) :
    record.strangers (changed name change members) = record.strangers members := by
  rw [strangers, strangers, changed, List.filterMap_map]
  refine congrArg Bag.ofMembers (List.filterMap_congr fun member _ => ?_)
  obtain ⟨held, content⟩ := member
  cases held with
  | error flaw => rfl
  | ok found =>
    by_cases same : found = name
    · subst same
      simp [field]
    · simp [Except.toOption, same]

/-- Where the walk over changed members goes well, the walk over the members goes well exactly when
what they have under the name can be decoded. -/
theorem walk_eq_ok_iff_of_changed {record : Record β} {strangers : Strangers} {source : Source}
    (field : name ∈ record.names)
    (fine : record.walk strangers source [] (changed name change members) = .ok ()) :
    record.walk strangers source [] members = .ok () ↔
      ∀ content, lookup members name = some content →
        record.check name source content = .ok () := by
  rw [walk_eq_ok_iff, fieldsNamed_changed] at fine
  obtain ⟨passes, distinct, fresh⟩ := fine
  rw [walk_eq_ok_iff]
  constructor
  · intro walked content found
    have own := passes_iff.mp (walked.1 _ (mem_of_lookup_eq_some found))
    rwa [if_pos field] at own
  · refine fun checked => ⟨fun member listed => ?_, distinct, fresh⟩
    have other := passes _ (List.mem_map_of_mem listed)
    obtain ⟨held, content⟩ := member
    cases held with
    | error flaw =>
      obtain ⟨_, clash, -⟩ := other
      cases clash
    | ok found =>
      by_cases same : found = name
      · subst same
        rw [passes_iff, if_pos field]
        exact checked content (lookup_eq_some_of_mem distinct field listed)
      · simpa [Except.toOption, same] using other

/-! ### Records with a field of their own -/

theorem fromMembers_of_eq_ok_iff {source : Source} {find : String → Option Document}
    {value result : α} :
    (Record.of value).fromMembers source find = .ok result ↔ value = result :=
  ⟨Except.ok.inj, congrArg Except.ok⟩

/-- A record with one more field is built from what the record without it is built from, and from
that field. -/
theorem fromMembers_field_eq_ok_iff {record : Record (α → β)} {absence : Absence α}
    {decoder : Decoder α} {source : Source} {find : String → Option Document} {result : β} :
    (record.field name absence decoder).fromMembers source find = .ok result ↔
      ∃ build, record.fromMembers source find = .ok build ∧
        ∃ value, member name absence decoder source find = .ok value ∧ build value = result := by
  simp only [field, bind_eq_ok_iff, Except.ok.injEq]

/-- A field of another name is the same where the members differ in one name only. -/
theorem member_congr {find other : String → Option Document}
    (same : ∀ asked, asked ≠ name → find asked = other asked) {asked : String}
    (differs : asked ≠ name) {absence : Absence α} {decoder : Decoder α} {source : Source} :
    member asked absence decoder source find = member asked absence decoder source other := by
  rw [member, member, same asked differs]

/-- A record puts what stands under a name into a field of its own, and takes everything else from
elsewhere. -/
structure Puts (record : Record (Bag → β)) (name : String) (absence : Absence α)
    (decoder : Decoder α) (put : α → β → β) : Prop where
  field : name ∈ record.names
  checked : ∀ content, record.check name .text content = .ok () ↔
    ∃ value, decoder .text content = .ok value
  built : ∀ (find other : String → Option Document) (build result : Bag → β),
    (∀ asked, asked ≠ name → find asked = other asked) →
      record.fromMembers .text other = .ok build →
        (record.fromMembers .text find = .ok result ↔
          ∃ value, member name absence decoder .text find = .ok value ∧
            result = fun bag => put value (build bag))

end Record

namespace Document

/-! ### Documents with a member that is changed -/

/-- What stands under a name, where the document is an object. -/
def member? (name : String) : Document → Option Document
  | .object members _ => Record.lookup members name
  | _ => none

/-- Changes what stands under a name, where the document is an object. -/
def atMember (name : String) (change : Document → Document) : Document → Document
  | .object members ending => .object (Record.changed name change members) ending
  | other => other

theorem member?_atMember (name : String) (change : Document → Document) (content : Document) :
    (content.atMember name change).member? name = (content.member? name).map change := by
  cases content with
  | object members ending =>
    show Record.lookup (Record.changed name change members) name = _
    rw [Record.lookup_changed]
    simp [member?]
  | _ => rfl

theorem atMember_id (name : String) (content : Document) : content.atMember name id = content := by
  cases content with
  | object members ending => simp [atMember, Record.changed]
  | _ => rfl

/-- What stands under a name comes to a value, or nothing stands there and the value is what that
comes to. -/
def Holds {α : Type} (content : Document) (name : String) (absence : Absence α)
    (decoder : Decoder α) (value : α) : Prop :=
  (∃ inner, content.member? name = some inner ∧ decoder .text inner = .ok value) ∨
    content.member? name = none ∧ absence.inObject = some value

/-- A document whose changed form is an object is one itself. -/
theorem eq_object_of_atMember {name : String} {change : Document → Document} {content : Document}
    {members : List (Except Flaw String × Document)} {ending : Ending}
    (same : content.atMember name change = .object members ending) :
    ∃ inner, content = .object inner ending ∧ members = Record.changed name change inner := by
  cases content with
  | object inner _ =>
    cases same
    exact ⟨inner, rfl, rfl⟩
  | _ => cases same

end Document

namespace Record.Puts

variable {α β : Type} {record : Record (Bag → β)} {name : String} {absence : Absence α}
  {decoder : Decoder α} {put : α → β → β} {title : String} {content : Document} {value : β}

/-- Where a document is decoded after a change under the name, it is decoded as it is exactly when
what it has under the name can be, and to a value that differs in that field only. -/
theorem opened_eq_ok_iff (puts : record.Puts name absence decoder put)
    {change : Document → Document} {other : β}
    (fine : record.opened title .text (content.atMember name change) = .ok other) :
    record.opened title .text content = .ok value ↔
      ∃ held, content.Holds name absence decoder held ∧ value = put held other := by
  obtain ⟨_, ending, build, same, made, rfl⟩ := Record.opened_eq_ok_iff.mp fine
  obtain ⟨members, rfl, rfl⟩ := Document.eq_object_of_atMember same
  obtain ⟨walked, closed, built⟩ := decodeObject_eq_ok_iff.mp made
  have elsewhere : ∀ asked, asked ≠ name →
      lookup members asked = lookup (changed name change members) asked := by
    intro asked differs
    rw [lookup_changed]
    simp [differs]
  have walks := walk_eq_ok_iff_of_changed puts.field walked
  rw [strangers_changed puts.field, Record.opened_eq_ok_iff]
  constructor
  · rintro ⟨_, _, result, ⟨⟩, decoded, rfl⟩
    obtain ⟨-, -, taken⟩ := decodeObject_eq_ok_iff.mp decoded
    obtain ⟨held, own, rfl⟩ := (puts.built _ _ _ _ elsewhere built).mp taken
    exact ⟨held, member_eq_ok_iff.mp own, rfl⟩
  · rintro ⟨held, own, rfl⟩
    refine ⟨members, ending, _, rfl, decodeObject_eq_ok_iff.mpr ⟨walks.mpr ?_, closed,
      (puts.built _ _ _ _ elsewhere built).mpr ⟨held, member_eq_ok_iff.mpr own, rfl⟩⟩, rfl⟩
    intro inner found
    rcases own with ⟨_, there, decoded⟩ | ⟨missing, -⟩
    · cases found.symm.trans there
      exact (puts.checked inner).mpr ⟨held, decoded⟩
    · cases found.symm.trans missing

/-- What is decoded has in the field what stands under the name. -/
theorem holds_of_opened_eq_ok (puts : record.Puts name absence decoder put)
    (decoded : record.opened title .text content = .ok value) :
    ∃ held, content.Holds name absence decoder held ∧ value = put held value := by
  have unchanged : record.opened title .text (content.atMember name id) = .ok value := by
    rwa [content.atMember_id name]
  exact (puts.opened_eq_ok_iff unchanged).mp decoded

end Record.Puts

end FleetView
