/-
This file is about records that are written as objects and decoded again. The members
that a record is written as spell its value: each names a field of its own, and what the
record builds from them is the value. Members are added field by field in the order of
declaration. A field whose value is what stands for an absent field may also be left out.
Behind the fields of an open record comes the bag, whose names are no fields; where one
of them is a field, a name is repeated and the object is decoded to nothing.
-/

import Mathlib
import FleetView.Proofs.Fidelity

namespace FleetView

namespace Record

variable {α β : Type} {sort : Number → Prop} {room : Nat} {record : Record α}
  {entries : List (String × Json)} {extra : Bag}

/-! ### Members of a value -/

theorem fieldsNamed_ofJsonMembers (record : Record α) (members : List (String × Json)) :
    record.fieldsNamed (Document.ofJsonMembers members) =
      (members.map Prod.fst).filter (· ∈ record.names) := by
  rw [Document.ofJsonMembers_eq_map, fieldsNamed, List.filterMap_map, ← List.filterMap_eq_filter,
    List.filterMap_map]
  refine congrArg (fun keep => List.filterMap keep members) ?_
  funext member
  rfl

theorem lookup_ofJsonMembers (members : List (String × Json)) (name : String) :
    lookup (Document.ofJsonMembers members) name =
      (Bag.get? members name).map Document.ofJson := by
  rw [Bag.get?, Option.map_map]
  induction members with
  | nil => rfl
  | cons member rest inductionHypothesis =>
    obtain ⟨other, value⟩ := member
    rw [Document.ofJsonMembers, lookup, List.find?_cons]
    by_cases same : other = name
    · rw [if_pos same, decide_eq_true same]
      rfl
    · rw [if_neg same, decide_eq_false same]
      exact inductionHypothesis

/-- A bag in order whose values stand for themselves and whose names are no fields. -/
structure Strange (fields : List String) (sort : Number → Prop) (room : Nat) (extra : Bag) : Prop
    where
  ascending : Ascending Prod.fst extra
  stands : ∀ entry ∈ extra, Decoder.json.Stands sort room entry.2 entry.2
  unknown : ∀ entry ∈ extra, entry.1 ∉ fields

theorem Strange.walked {fields : List String} {entry : String × Json}
    (strange : Strange fields sort room extra)
    (held : entry ∈ extra) : (Document.ofJson entry.2).toJson = .ok entry.2 :=
  Decoder.json_eq_ok_iff.mp (strange.stands entry held).recovered

theorem strange_strangers {members : List (Except Flaw String × Document)}
    (legible : ∀ member ∈ members, member.2.Legible sort room) :
    Strange record.names sort room (record.strangers members) := by
  refine ⟨ascending_strangers, fun entry held => ?_, fun entry held => (of_mem_strangers held).1⟩
  obtain ⟨-, member, listed, -, walked⟩ := of_mem_strangers held
  exact Decoder.faithful_json member.2 entry.2 (legible member listed)
    (Decoder.json_eq_ok_iff.mpr walked)

/-- The bag of an object is what is written behind the fields. -/
theorem strangers_ofJsonMembers (known : ∀ entry ∈ entries, entry.1 ∈ record.names)
    (strange : Strange record.names sort room extra) :
    record.strangers (Document.ofJsonMembers (entries ++ extra)) = extra := by
  obtain ⟨keep, kept, bag⟩ : ∃ keep : String × Json → Option (String × Json),
      (∀ entry, keep entry = if entry.1 ∈ record.names then none else
        (Document.ofJson entry.2).toJson.toOption.map fun value => (entry.1, value)) ∧
      record.strangers (Document.ofJsonMembers (entries ++ extra)) =
        Bag.ofMembers ((entries ++ extra).filterMap keep) := by
    refine ⟨_, fun _ => rfl, ?_⟩
    rw [strangers, Document.ofJsonMembers_eq_map, List.filterMap_map]
    rfl
  have fields : entries.filterMap keep = [] := by
    refine List.filterMap_eq_nil_iff.mpr fun entry held => ?_
    rw [kept, if_pos (known entry held)]
  have others : extra.filterMap keep = extra := by
    have same : extra.filterMap keep = extra.filterMap some := by
      refine List.filterMap_congr fun entry held => ?_
      rw [kept, if_neg (strange.unknown entry held), strange.walked held]
      rfl
    rw [same, List.filterMap_some]
  rw [bag, List.filterMap_append, fields, others, List.nil_append,
    Bag.ofMembers_eq_self strange.ascending]

/-! ### Fields that spell a value -/

/-- Members, each of a field of its own, from which a record builds a value. -/
structure Spells (record : Record α) (sort : Number → Prop) (room : Nat)
    (entries : List (String × Json)) (value : α) : Prop where
  named : (entries.map Prod.fst).Sublist record.names
  checked : ∀ entry ∈ entries, record.check entry.1 .text (Document.ofJson entry.2) = .ok ()
  legible : ∀ entry ∈ entries, (Document.ofJson entry.2).Legible sort room
  distinct : ∀ entry ∈ entries, (Document.ofJson entry.2).Distinct
  built : ∀ members : String → Option Document,
    (∀ name ∈ record.names, members name = (Bag.get? entries name).map Document.ofJson) →
      record.fromMembers .text members = .ok value

theorem Spells.known {value : α} (spells : record.Spells sort room entries value)
    {entry : String × Json} (held : entry ∈ entries) : entry.1 ∈ record.names :=
  spells.named.subset (List.mem_map_of_mem held)

theorem spells_of (value : α) : (Record.of value).Spells sort room [] value :=
  ⟨.slnil, nofun, nofun, nofun, fun _ _ => rfl⟩

namespace Spells

variable {build : α → β} {record : Record (α → β)} {name : String} {absence : Absence α}
  {decoder : Decoder α} {written : Json} {value : α}

theorem field (spells : record.Spells sort room entries build) (fresh : name ∉ record.names)
    (stands : decoder.Stands sort room written value) :
    (record.field name absence decoder).Spells sort room (entries ++ [(name, written)])
      (build value) := by
  have elsewhere : name ∉ entries.map Prod.fst := fun listed => fresh (spells.named.subset listed)
  refine ⟨?_, ?_, ?_, ?_, fun members agrees => ?_⟩
  · rw [List.map_append]
    exact spells.named.append (List.Sublist.refl _)
  · refine List.forall_mem_append.mpr ⟨fun entry held => ?_, List.forall_mem_singleton.mpr ?_⟩
    · have other : entry.1 ≠ name := fun same => fresh (same ▸ spells.known held)
      exact (if_neg other).trans (spells.checked entry held)
    · refine (if_pos rfl).trans ?_
      rw [stands.recovered]
      rfl
  · exact List.forall_mem_append.mpr ⟨spells.legible, List.forall_mem_singleton.mpr stands.legible⟩
  · refine List.forall_mem_append.mpr ⟨spells.distinct, ?_⟩
    exact List.forall_mem_singleton.mpr stands.distinct
  · have before : record.fromMembers .text members = .ok build := by
      refine spells.built members fun other listed => ?_
      have differs : other ∉ [name] := fun same => fresh (List.mem_singleton.mp same ▸ listed)
      rw [agrees other (List.mem_append_left _ listed), Bag.get?_append,
        @Bag.get?_eq_none [(name, written)] other differs, Option.or_none]
    have own : members name = some (Document.ofJson written) := by
      rw [agrees name (List.mem_append_right _ List.mem_cons_self), Bag.get?_append,
        Bag.get?_eq_none elsewhere, Option.none_or, Bag.get?_cons, if_pos rfl]
      rfl
    refine bind_eq_ok_iff.mpr ⟨build, before, bind_eq_ok_iff.mpr ⟨value, ?_, rfl⟩⟩
    rw [member, own]
    exact mapError_eq_ok_iff.mpr stands.recovered

/-- A field is left out where its value is what stands for an absent one. -/
theorem without (spells : record.Spells sort room entries build) (fresh : name ∉ record.names)
    (absent : absence.inObject = some value) :
    (record.field name absence decoder).Spells sort room entries (build value) := by
  have elsewhere : name ∉ entries.map Prod.fst := fun listed => fresh (spells.named.subset listed)
  refine ⟨?_, fun entry held => ?_, spells.legible, spells.distinct, fun members agrees => ?_⟩
  · exact spells.named.trans (List.sublist_append_left _ _)
  · have other : entry.1 ≠ name := fun same => fresh (same ▸ spells.known held)
    exact (if_neg other).trans (spells.checked entry held)
  · have before : record.fromMembers .text members = .ok build :=
      spells.built members fun other listed => agrees other (List.mem_append_left _ listed)
    have none : members name = none := by
      rw [agrees name (List.mem_append_right _ List.mem_cons_self), Bag.get?_eq_none elsewhere]
      rfl
    refine bind_eq_ok_iff.mpr ⟨build, before, bind_eq_ok_iff.mpr ⟨value, ?_, rfl⟩⟩
    rw [member, none, absent]

end Spells

theorem nodup_names_of_field {record : Record (α → β)} {name : String} {absence : Absence α}
    {decoder : Decoder α} (different : (record.field name absence decoder).names.Nodup) :
    record.names.Nodup ∧ name ∉ record.names := by
  obtain ⟨known, -, others⟩ := List.nodup_append.mp different
  exact ⟨known, fun listed => others name listed name List.mem_cons_self rfl⟩

/-- One field after the other, where all of them differ in the end. -/
theorem Spells.next {record : Record (α → β)} {build : α → β} {name : String} {absence : Absence α}
    {decoder : Decoder α} {written : Json} {value : α}
    (spells : record.names.Nodup → record.Spells sort room entries build)
    (stands : decoder.Stands sort room written value)
    (different : (record.field name absence decoder).names.Nodup) :
    (record.field name absence decoder).Spells sort room (entries ++ [(name, written)])
      (build value) :=
  (spells (nodup_names_of_field different).1).field (nodup_names_of_field different).2 stands

/-- A field is written as its member, or left out where its value stands for an absent one. -/
theorem Spells.written {record : Record (α → β)} {build : α → β} {name : String}
    {absence : Absence α} {decoder : Decoder α} {encode : α → Json}
    {write : α → List (String × Json)} {value : α}
    (spells : record.Spells sort room entries build)
    (fresh : name ∉ record.names) (stands : decoder.Stands sort room (encode value) value)
    (writes : write value = [(name, encode value)] ∨
      write value = [] ∧ absence.inObject = some value) :
    (record.field name absence decoder).Spells sort room (entries ++ write value)
      (build value) := by
  rcases writes with present | ⟨none, absent⟩
  · rw [present]
    exact spells.field fresh stands
  · rw [none, List.append_nil]
    exact spells.without fresh absent

/-! ### Whole objects -/

namespace Spells

variable {value : α} {strangers : Strangers} {title : String}

theorem nodup_names (spells : record.Spells sort room entries value)
    (different : record.names.Nodup) (unknown : ∀ entry ∈ extra, entry.1 ∉ record.names)
    (ascending : Ascending Prod.fst extra) :
    ((entries ++ extra).map Prod.fst).Nodup := by
  rw [List.map_append]
  refine List.nodup_append.mpr ⟨different.sublist spells.named, ?_, fun name listed other held => ?_⟩
  · exact (List.pairwise_map.mpr ascending).imp ne_of_lt
  · rintro rfl
    obtain ⟨entry, kept, rfl⟩ := List.mem_map.mp held
    exact unknown entry kept (spells.named.subset listed)

/-- The members are decoded to the value they spell, with members behind them that are no fields
and go unnoticed. -/
theorem decodeObject_eq_ok (spells : record.Spells sort room entries value)
    (different : record.names.Nodup)
    (passing : ∀ entry ∈ extra, entry.1 ∉ record.names ∧
      stranger strangers (Document.ofJson entry.2) = .ok ()) :
    record.decodeObject strangers .text (Document.ofJsonMembers (entries ++ extra)) .closed =
      .ok value := by
  refine decodeObject_eq_ok_iff.mpr ⟨walk_eq_ok_iff.mpr ⟨?_, ?_, nofun⟩, rfl, ?_⟩
  · rw [Document.ofJsonMembers_eq_map, List.forall_mem_map, List.forall_mem_append]
    constructor
    · intro entry held
      refine ⟨entry.1, rfl, ?_⟩
      rw [if_pos (spells.known held)]
      exact spells.checked entry held
    · intro entry held
      refine ⟨entry.1, rfl, ?_⟩
      rw [if_neg (passing entry held).1]
      exact (passing entry held).2
  · have none : (extra.map Prod.fst).filter (· ∈ record.names) = [] := by
      refine List.filter_eq_nil_iff.mpr fun name listed field => ?_
      obtain ⟨entry, held, rfl⟩ := List.mem_map.mp listed
      exact (passing entry held).1 (of_decide_eq_true field)
    rw [fieldsNamed_ofJsonMembers, List.map_append, List.filter_append, none, List.append_nil]
    exact (different.sublist spells.named).sublist List.filter_sublist
  · refine spells.built _ fun name field => ?_
    have absent : name ∉ extra.map Prod.fst := by
      intro listed
      obtain ⟨entry, held, rfl⟩ := List.mem_map.mp listed
      exact (passing entry held).1 field
    rw [lookup_ofJsonMembers, Bag.get?_append, Bag.get?_eq_none absent, Option.or_none]

theorem closed (spells : record.Spells sort room entries value) (different : record.names.Nodup) :
    (record.closed title).Stands sort (room + 1) (.object entries) value := by
  refine ⟨Document.legible_ofJson_object_iff.mpr spells.legible,
    Document.distinct_ofJson_object_iff.mpr ⟨different.sublist spells.named, spells.distinct⟩, ?_⟩
  have decoded : record.decodeObject .passedOver .text (Document.ofJsonMembers (entries ++ []))
      .closed = .ok value := spells.decodeObject_eq_ok different nofun
  rwa [List.append_nil] at decoded

theorem opened {record : Record (Bag → α)} {build : Bag → α}
    (spells : record.Spells sort room entries build) (different : record.names.Nodup)
    (strange : Strange record.names sort room extra) :
    (record.opened title).Stands sort (room + 1) (.object (entries ++ extra)) (build extra) := by
  refine ⟨?_, ?_, opened_eq_ok_iff.mpr ⟨_, _, build, Document.ofJson.eq_6 _, ?_, ?_⟩⟩
  · refine Document.legible_ofJson_object_iff.mpr (List.forall_mem_append.mpr ⟨spells.legible, ?_⟩)
    exact fun entry held => (strange.stands entry held).legible
  · refine Document.distinct_ofJson_object_iff.mpr
      ⟨spells.nodup_names different strange.unknown strange.ascending, ?_⟩
    refine List.forall_mem_append.mpr ⟨spells.distinct, ?_⟩
    exact fun entry held => (strange.stands entry held).distinct
  · refine spells.decodeObject_eq_ok different fun entry held => ⟨strange.unknown entry held, ?_⟩
    rw [stranger, (strange.stands entry held).recovered]
    rfl
  · rw [strangers_ofJsonMembers (fun entry held => spells.known held) strange]

end Spells

/-- Members that name a field twice are decoded to nothing. -/
theorem opened_ne_ok {record : Record (Bag → α)} {title : String} {members : List (String × Json)}
    (repeated : ¬ ((members.map Prod.fst).filter (· ∈ record.names)).Nodup) (value : α) :
    record.opened title .text (Document.ofJson (.object members)) ≠ .ok value := by
  intro decoded
  obtain ⟨found, ending, build, same, made, -⟩ := opened_eq_ok_iff.mp decoded
  cases same
  obtain ⟨walked, -⟩ := decodeObject_eq_ok_iff.mp made
  obtain ⟨-, once, -⟩ := walk_eq_ok_iff.mp walked
  rw [fieldsNamed_ofJsonMembers] at once
  exact repeated once

/-! ### Records that come out spelled -/

/-- Whatever the record is built from, its value is spelled by members that fit it. The fields of
the record are to differ. -/
structure Faithful (record : Record α) (sort : Number → Prop) (room : Nat)
    (fits : List (String × Json) → α → Prop) : Prop where
  of_members : record.names.Nodup → ∀ (members : String → Option Document) (value : α),
    (∀ name content, members name = some content → content.Legible sort room) →
      record.fromMembers .text members = .ok value →
        ∃ entries, record.Spells sort room entries value ∧ fits entries value
  of_items : record.names.Nodup → ∀ (queue rest : Queue) (value : α),
    (∀ item ∈ queue.items, item.Legible sort room) →
      record.fromItems .text queue = .ok (value, rest) →
        (∃ entries, record.Spells sort room entries value ∧ fits entries value) ∧
          ∀ item ∈ rest.items, item.Legible sort room

theorem faithful_of {fits : List (String × Json) → α → Prop} {value : α} (start : fits [] value) :
    (Record.of value).Faithful sort room fits := by
  refine ⟨fun _ members found _ built => ?_, fun _ queue rest found legible taken => ?_⟩
  · cases built
    exact ⟨[], spells_of value, start⟩
  · cases taken
    exact ⟨⟨[], spells_of value, start⟩, legible⟩

theorem of_item_eq_ok {absence : Absence α} {decoder : Decoder α} {source : Source}
    {queue rest : Queue} {value : α}
    (taken : item absence decoder source queue = .ok (value, rest)) :
    (∃ content, queue.items = content :: rest.items ∧ decoder source content = .ok value) ∨
      rest.items = [] ∧ absence.inArray = some value := by
  rw [item.eq_def] at taken
  split at taken
  · rename_i content items held
    obtain ⟨found, decoded, same⟩ := bind_eq_ok_iff.mp taken
    cases same
    exact Or.inl ⟨content, held, mapError_eq_ok_iff.mp decoded⟩
  · rename_i empty
    obtain ⟨⟨⟩, -, given⟩ := bind_eq_ok_iff.mp taken
    split at given
    · rename_i default absent
      cases given
      exact Or.inr ⟨empty, absent⟩
    · cases given

namespace Faithful

variable {record : Record (α → β)} {name : String} {absence : Absence α} {decoder : Decoder α}
  {encode : α → Json} {write : α → List (String × Json)} {fits : List (String × Json) → β → Prop}

/-- One more field, with its value standing in what it is written as. -/
theorem field
    (before : record.Faithful sort room fun entries build => ∀ value,
      decoder.Stands sort room (encode value) value → fits (entries ++ write value) (build value))
    (faithful : decoder.Faithful sort room encode)
    (missing : ∀ value, absence.inObject = some value ∨ absence.inArray = some value →
      decoder.Stands sort room (encode value) value)
    (writes : ∀ value, write value = [(name, encode value)] ∨
      write value = [] ∧ absence.inObject = some value) :
    (record.field name absence decoder).Faithful sort room fits := by
  have extended : name ∉ record.names → ∀ build value,
      (∃ entries, record.Spells sort room entries build ∧ ∀ value,
        decoder.Stands sort room (encode value) value →
          fits (entries ++ write value) (build value)) →
      decoder.Stands sort room (encode value) value →
      ∃ entries, (record.field name absence decoder).Spells sort room entries (build value) ∧
        fits entries (build value) := by
    rintro fresh build value ⟨entries, spells, fitting⟩ stands
    exact ⟨entries ++ write value, spells.written fresh stands (writes value), fitting value stands⟩
  refine ⟨fun different members found legible made => ?_,
    fun different queue rest found legible taken => ?_⟩
  -- In an object the value comes from a member of the name, wherever it stands.
  · obtain ⟨known, fresh⟩ := nodup_names_of_field different
    obtain ⟨build, first, last⟩ := bind_eq_ok_iff.mp made
    obtain ⟨value, own, same⟩ := bind_eq_ok_iff.mp last
    rw [← Except.ok.inj same]
    refine extended fresh build value (before.of_members known members build legible first) ?_
    rcases member_eq_ok_iff.mp own with ⟨content, held, decoded⟩ | ⟨-, absent⟩
    · exact faithful content value (legible name content held) decoded
    · exact missing value (Or.inl absent)
  -- In an array it is the next item, so what is left for the fields behind has to be told as well.
  · obtain ⟨known, fresh⟩ := nodup_names_of_field different
    obtain ⟨⟨build, middle⟩, first, last⟩ := bind_eq_ok_iff.mp taken
    obtain ⟨⟨value, final⟩, own, same⟩ := bind_eq_ok_iff.mp last
    cases same
    obtain ⟨spelled, remaining⟩ := before.of_items known queue middle build legible first
    rcases of_item_eq_ok own with ⟨content, held, decoded⟩ | ⟨empty, absent⟩
    · rw [held] at remaining
      obtain ⟨own, others⟩ := List.forall_mem_cons.mp remaining
      exact ⟨extended fresh build value spelled (faithful content value own decoded), others⟩
    · refine ⟨extended fresh build value spelled (missing value (Or.inr absent)), ?_⟩
      rw [empty]
      exact fun _ member => absurd member List.not_mem_nil

theorem required
    (before : record.Faithful sort room fun entries build => ∀ value,
      decoder.Stands sort room (encode value) value →
        fits (entries ++ [(name, encode value)]) (build value))
    (faithful : decoder.Faithful sort room encode) :
    (record.required name decoder).Faithful sort room fits := by
  refine before.field faithful ?_ fun _ => Or.inl rfl
  rintro value (none | none)
  · cases none
  · cases none

theorem defaulted {default : α}
    (before : record.Faithful sort room fun entries build => ∀ value,
      decoder.Stands sort room (encode value) value →
        fits (entries ++ [(name, encode value)]) (build value))
    (faithful : decoder.Faithful sort room encode)
    (stands : decoder.Stands sort room (encode default) default) :
    (record.defaulted name default decoder).Faithful sort room fits := by
  refine before.field faithful ?_ fun _ => Or.inl rfl
  rintro value (same | same)
  · exact Option.some.inj same ▸ stands
  · exact Option.some.inj same ▸ stands

/-- What comes out of the document of an open record stands in its written form. -/
theorem opened {record : Record (Bag → α)} {title : String} {encode : α → Json} {holds : α → Prop}
    (faithful : record.Faithful sort room fun entries build => ∀ extra,
      Strange record.names sort room extra →
        encode (build extra) = .object (entries ++ extra) ∧ holds (build extra))
    (different : record.names.Nodup) {content : Document} {value : α}
    (legible : content.Legible sort (room + 1))
    (decoded : record.opened title .text content = .ok value) :
    (record.opened title).Stands sort (room + 1) (encode value) value ∧ holds value := by
  obtain ⟨members, ending, build, rfl, made, rfl⟩ := opened_eq_ok_iff.mp decoded
  obtain ⟨-, -, built⟩ := decodeObject_eq_ok_iff.mp made
  have each := Document.legible_object_iff.mp legible
  obtain ⟨entries, spells, fitting⟩ := faithful.of_members different _ build
    (fun name content found => each _ (mem_of_lookup_eq_some found)) built
  have strange : Strange record.names sort room (record.strangers members) := strange_strangers each
  obtain ⟨written, held⟩ := fitting _ strange
  exact ⟨written ▸ spells.opened different strange, held⟩

/-- The same for the document of a closed record, which may be an array. -/
theorem closed {record : Record α} {title : String} {encode : α → Json} {holds : α → Prop}
    (faithful : record.Faithful sort room fun entries value =>
      encode value = .object entries ∧ holds value)
    (different : record.names.Nodup) {content : Document} {value : α}
    (legible : content.Legible sort (room + 1))
    (decoded : record.closed title .text content = .ok value) :
    (record.closed title).Stands sort (room + 1) (encode value) value ∧ holds value := by
  have spelled : ∃ entries, record.Spells sort room entries value ∧
      encode value = .object entries ∧ holds value := by
    rcases eq_of_closed_eq_ok decoded with
      ⟨members, ending, rfl, made⟩ | ⟨items, ending, queue, rfl, taken⟩
    · obtain ⟨-, -, built⟩ := decodeObject_eq_ok_iff.mp made
      have each := Document.legible_object_iff.mp legible
      exact faithful.of_members different _ value
        (fun name content found => each _ (mem_of_lookup_eq_some found)) built
    · have each := Document.legible_array_iff.mp legible
      exact (faithful.of_items different _ queue value each taken).1
  obtain ⟨entries, spells, written, held⟩ := spelled
  exact ⟨written ▸ spells.closed different, held⟩

end Faithful

end Record

end FleetView
