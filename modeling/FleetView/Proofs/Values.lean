/-
This file is about what documents and values are made of. A document is looked at
through its parts, which are the document itself and all that it holds, and through
the depth to which arrays and objects are nested in it. The strict walk takes every
part of a value from the document and adds no depth, and it leaves objects tidy: the
names of an object ascend, and walking the document of a value that a walk has come to
comes to the same value again.
-/

import Mathlib
import FleetView.Json.Reader
import FleetView.Proofs.Ordered
import FleetView.Proofs.Traversal

namespace FleetView

/-- An integer that fits into 64 bits, with a sign or without. -/
def Number.Whole : Number → Prop
  | .integer value => -(Word.count 63 : Int) ≤ value ∧ value < Word.count 64
  | .double _ => False

instance : DecidablePred Number.Whole
  | .integer _ => inferInstanceAs (Decidable (_ ∧ _))
  | .double _ => inferInstanceAs (Decidable False)

/-- Induction over a value by the values that it holds. -/
theorem Json.induct {motive : Json → Prop} (null : motive .null)
    (bool : ∀ value, motive (.bool value)) (number : ∀ value, motive (.number value))
    (string : ∀ text, motive (.string text))
    (array : ∀ items, (∀ item ∈ items, motive item) → motive (.array items))
    (object : ∀ members, (∀ member ∈ members, motive member.2) → motive (.object members))
    (value : Json) : motive value := by
  refine @Json.rec motive (fun items => ∀ item ∈ items, motive item)
    (fun members => ∀ member ∈ members, motive member.2) (fun member => motive member.2) null bool
    number string array object ?_ ?_ ?_ ?_ ?_ value
  · exact fun _ member => absurd member List.not_mem_nil
  · exact fun _ _ first others => List.forall_mem_cons.mpr ⟨first, others⟩
  · exact fun _ member => absurd member List.not_mem_nil
  · exact fun _ _ first others => List.forall_mem_cons.mpr ⟨first, others⟩
  · exact fun _ _ held => held

theorem Json.tidyItems_eq_map (items : List Json) : tidyItems items = items.map tidy := by
  induction items with
  | nil => rfl
  | cons item rest inductionHypothesis => rw [tidyItems, inductionHypothesis, List.map_cons]

theorem Json.tidyMembers_eq_map (members : List (String × Json)) :
    tidyMembers members = members.map fun member => (member.1, member.2.tidy) := by
  induction members with
  | nil => rfl
  | cons member rest inductionHypothesis => rw [tidyMembers, inductionHypothesis, List.map_cons]

/-! ### Values under names -/

section

variable {Value : Type}

theorem value?_cons (name : String) (value : Value) (rest : List (String × Value))
    (asked : String) :
    (((name, value) :: rest).find? (·.1 = asked)).map (·.2) =
      if name = asked then some value else (rest.find? (·.1 = asked)).map (·.2) := by
  rw [List.find?_cons]
  by_cases same : name = asked
  · rw [decide_eq_true same, if_pos same]
    rfl
  · rw [decide_eq_false same, if_neg same]

theorem value?_eq_none {entries : List (String × Value)} {asked : String}
    (absent : asked ∉ entries.map Prod.fst) :
    (entries.find? (·.1 = asked)).map (·.2) = none := by
  rw [Option.map_eq_none_iff, List.find?_eq_none]
  exact fun entry listed same => absent (List.mem_map.mpr ⟨entry, listed, of_decide_eq_true same⟩)

end

/-! ### Bags -/

namespace Bag

theorem mem_of_mem_insert {name : String} {value : Json} {bag : Bag} {member : String × Json}
    (held : member ∈ bag.insert name value) : member = (name, value) ∨ member ∈ bag := by
  induction bag with
  | nil => exact Or.inl (List.mem_singleton.mp held)
  | cons first rest inductionHypothesis =>
    obtain ⟨other, kept⟩ := first
    rw [insert] at held
    split at held
    · exact List.mem_cons.mp held
    · split at held
      · exact (List.mem_cons.mp held).imp id (List.mem_cons_of_mem _)
      · rcases List.mem_cons.mp held with same | later
        · exact Or.inr (same ▸ List.mem_cons_self)
        · exact (inductionHypothesis later).imp id (List.mem_cons_of_mem _)

theorem ascending_insert (name : String) (value : Json) {bag : Bag}
    (ascending : Ascending Prod.fst bag) : Ascending Prod.fst (bag.insert name value) := by
  induction bag with
  | nil => exact List.pairwise_singleton _ _
  | cons first rest inductionHypothesis =>
    obtain ⟨other, kept⟩ := first
    rw [insert]
    split
    · rename_i below
      exact ascending.before below
    · split
      · rename_i same
        exact ascending.instead same
      · rename_i beyond differs
        exact ascending.behind beyond differs
          (inductionHypothesis (List.Pairwise.of_cons ascending)) fun found member =>
            (mem_of_mem_insert member).imp (congrArg Prod.fst) id

/-- A member whose name is beyond all others comes last. -/
theorem insert_eq_concat {name : String} {value : Json} {bag : Bag}
    (beyond : ∀ member ∈ bag, member.1 < name) :
    bag.insert name value = bag ++ [(name, value)] := by
  induction bag with
  | nil => rfl
  | cons first rest inductionHypothesis =>
    obtain ⟨below, others⟩ := List.forall_mem_cons.mp beyond
    rw [insert, if_neg (lt_asymm below), if_neg (ne_of_gt below), inductionHypothesis others,
      List.cons_append]

theorem ascending_ofMembers (members : List (String × Json)) :
    Ascending Prod.fst (ofMembers members) :=
  List.foldlRecOn members _ List.Pairwise.nil fun _ ascending _ _ => ascending_insert _ _ ascending

theorem mem_of_mem_ofMembers {members : List (String × Json)} {member : String × Json}
    (held : member ∈ ofMembers members) : member ∈ members := by
  refine List.foldlRecOn (motive := fun bag => member ∈ bag → member ∈ members) members _
    (fun none => absurd none List.not_mem_nil) (fun bag known next listed inserted => ?_) held
  rcases mem_of_mem_insert inserted with same | old
  · exact same ▸ listed
  · exact known old

/-- Members in order are a bag as they are. -/
theorem ofMembers_eq_self {bag : Bag} (ascending : Ascending Prod.fst bag) :
    ofMembers bag = bag := by
  -- The members in place come before those still to be placed.
  have placed : ∀ (rest done : Bag), Ascending Prod.fst (done ++ rest) →
      rest.foldl (fun bag member => bag.insert member.1 member.2) done = done ++ rest := by
    intro rest
    induction rest with
    | nil => exact fun done _ => (List.append_nil done).symm
    | cons next rest inductionHypothesis =>
      intro done ordered
      have beyond := (List.pairwise_append.mp ordered).2.2
      have regroup : done ++ next :: rest = (done ++ [next]) ++ rest := by
        rw [List.append_assoc, List.singleton_append]
      rw [List.foldl_cons, insert_eq_concat fun member held => beyond member held next
        List.mem_cons_self, regroup]
      exact inductionHypothesis _ (regroup ▸ ordered)
  exact placed bag [] ascending

theorem get?_cons (name : String) (value : Json) (rest : Bag) (asked : String) :
    get? ((name, value) :: rest) asked = if name = asked then some value else rest.get? asked :=
  value?_cons name value rest asked

theorem get?_append (before after : Bag) (asked : String) :
    get? (before ++ after) asked = (before.get? asked).or (after.get? asked) := by
  rw [get?, List.find?_append, Option.map_or]
  rfl

theorem get?_eq_none {bag : Bag} {asked : String} (absent : asked ∉ bag.map Prod.fst) :
    bag.get? asked = none :=
  value?_eq_none absent

theorem get?_insert (bag : Bag) (name : String) (value : Json) (asked : String) :
    (bag.insert name value).get? asked = if name = asked then some value else bag.get? asked := by
  induction bag with
  | nil => exact get?_cons name value [] asked
  | cons first rest inductionHypothesis =>
    obtain ⟨other, kept⟩ := first
    rw [insert]
    split
    · exact get?_cons name value _ asked
    · split
      · rename_i same
        rw [get?_cons, get?_cons, same]
        split
        · rfl
        · rfl
      · rename_i differs
        rw [get?_cons, get?_cons, inductionHypothesis]
        split
        · rename_i found
          rw [if_neg (found ▸ differs)]
        · rfl

/-- Of members with one name the last one counts. -/
theorem get?_ofMembers (members : List (String × Json)) (asked : String) :
    (ofMembers members).get? asked = get? members.reverse asked := by
  induction members using List.reverseRecOn with
  | nil => rfl
  | append_singleton before last inductionHypothesis =>
    rw [ofMembers, List.foldl_concat, get?_insert, List.reverse_concat, get?_cons]
    exact congrArg (fun rest => if last.1 = asked then some last.2 else rest) inductionHypothesis

end Bag

/-! ### Parts and depth of documents -/

namespace Document

/-- Induction over a document by the documents that it holds. -/
theorem induct {motive : Document → Prop} (null : motive .null)
    (bool : ∀ value, motive (.bool value)) (number : ∀ value, motive (.number value))
    (hugeNumber : motive .hugeNumber) (string : ∀ text, motive (.string text))
    (badString : ∀ flaw, motive (.badString flaw))
    (array : ∀ items ending, (∀ item ∈ items, motive item) → motive (.array items ending))
    (object : ∀ members ending, (∀ member ∈ members, motive member.2) →
      motive (.object members ending))
    (tooDeep : ∀ content, motive content → motive (.tooDeep content))
    (broken : ∀ strict lenient, motive (.broken strict lenient)) (content : Document) :
    motive content := by
  refine @Document.rec motive (fun items => ∀ item ∈ items, motive item)
    (fun members => ∀ member ∈ members, motive member.2) (fun member => motive member.2) null bool
    number hugeNumber string badString array object tooDeep broken ?_ ?_ ?_ ?_ ?_ content
  · exact fun _ member => absurd member List.not_mem_nil
  · exact fun _ _ first others => List.forall_mem_cons.mpr ⟨first, others⟩
  · exact fun _ member => absurd member List.not_mem_nil
  · exact fun _ _ first others => List.forall_mem_cons.mpr ⟨first, others⟩
  · exact fun _ _ held => held

mutual

/-- A document and all that it holds. -/
def parts : Document → List Document
  | .array items ending => .array items ending :: partsOfItems items
  | .object members ending => .object members ending :: partsOfMembers members
  | .tooDeep content => .tooDeep content :: content.parts
  | other => [other]

/-- The parts of items. -/
def partsOfItems : List Document → List Document
  | [] => []
  | item :: items => item.parts ++ partsOfItems items

/-- The parts of the contents of members. -/
def partsOfMembers : List (Except Flaw String × Document) → List Document
  | [] => []
  | (_, content) :: members => content.parts ++ partsOfMembers members

end

mutual

/-- How many arrays and objects are open at once, as far as nesting is followed. -/
def depth : Document → Nat
  | .array items _ => depthOfItems items + 1
  | .object members _ => depthOfMembers members + 1
  | _ => 0

/-- The depth of the deepest item. -/
def depthOfItems : List Document → Nat
  | [] => 0
  | item :: items => max item.depth (depthOfItems items)

/-- The depth of the deepest member. -/
def depthOfMembers : List (Except Flaw String × Document) → Nat
  | [] => 0
  | (_, content) :: members => max content.depth (depthOfMembers members)

end

/-- All numbers are integers of 64 bits. -/
def Whole (content : Document) : Prop :=
  ∀ number, .number number ∈ content.parts → number.Whole

/-- No object names two members alike. -/
def Distinct (content : Document) : Prop :=
  ∀ members ending, .object members ending ∈ content.parts → (members.map Prod.fst).Nodup

/-- The number that a document is. -/
def number? : Document → Option Number
  | .number value => some value
  | _ => none

/-- The names of an object's members. -/
def names? : Document → Option (List (Except Flaw String))
  | .object members _ => some (members.map Prod.fst)
  | _ => none

theorem whole_iff {content : Document} :
    content.Whole ↔ ∀ value ∈ content.parts.filterMap number?, value.Whole := by
  refine forall_congr' fun value => imp_congr_left ?_
  refine Iff.symm (List.mem_filterMap.trans ⟨fun ⟨part, held, is⟩ => ?_, fun held => ⟨_, held, rfl⟩⟩)
  cases part <;> cases is
  exact held

theorem distinct_iff {content : Document} :
    content.Distinct ↔ ∀ names ∈ content.parts.filterMap names?, names.Nodup := by
  constructor
  · intro distinct names listed
    obtain ⟨part, held, is⟩ := List.mem_filterMap.mp listed
    cases part <;> cases is
    exact distinct _ _ held
  · intro each members ending held
    exact each _ (List.mem_filterMap.mpr ⟨_, held, rfl⟩)

instance (content : Document) : Decidable content.Whole := decidable_of_iff' _ whole_iff

instance (content : Document) : Decidable content.Distinct := decidable_of_iff' _ distinct_iff

variable {items : List Document} {members : List (Except Flaw String × Document)}
  {ending : Ending} {part : Document} {room : Nat}

theorem mem_parts_array_iff :
    part ∈ (Document.array items ending).parts ↔
      part = .array items ending ∨ ∃ item ∈ items, part ∈ item.parts := by
  have held : part ∈ partsOfItems items ↔ ∃ item ∈ items, part ∈ item.parts := by
    induction items with
    | nil => simp [partsOfItems]
    | cons item rest inductionHypothesis => simp [partsOfItems, inductionHypothesis]
  rw [parts, List.mem_cons, held]

theorem mem_parts_object_iff :
    part ∈ (Document.object members ending).parts ↔
      part = .object members ending ∨ ∃ member ∈ members, part ∈ member.2.parts := by
  have held : part ∈ partsOfMembers members ↔ ∃ member ∈ members, part ∈ member.2.parts := by
    induction members with
    | nil => simp [partsOfMembers]
    | cons member rest inductionHypothesis => simp [partsOfMembers, inductionHypothesis]
  rw [parts, List.mem_cons, held]

theorem depth_array_le_iff :
    (Document.array items ending).depth ≤ room + 1 ↔ ∀ item ∈ items, item.depth ≤ room := by
  rw [depth, Nat.add_le_add_iff_right]
  induction items with
  | nil => simp [depthOfItems]
  | cons item rest inductionHypothesis => simp [depthOfItems, inductionHypothesis]

theorem depth_object_le_iff :
    (Document.object members ending).depth ≤ room + 1 ↔
      ∀ member ∈ members, member.2.depth ≤ room := by
  rw [depth, Nat.add_le_add_iff_right]
  induction members with
  | nil => simp [depthOfMembers]
  | cons member rest inductionHypothesis => simp [depthOfMembers, inductionHypothesis]

/-- Nothing is nested deeper than there is room for, and all numbers are of a certain sort. -/
structure Legible (sort : Number → Prop) (room : Nat) (content : Document) : Prop where
  shallow : content.depth ≤ room
  numbers : ∀ number, .number number ∈ content.parts → sort number

variable {sort : Number → Prop}

theorem legible_array_iff :
    (Document.array items ending).Legible sort (room + 1) ↔
      ∀ item ∈ items, item.Legible sort room := by
  constructor
  · intro legible item member
    refine ⟨depth_array_le_iff.mp legible.shallow item member, fun number held => ?_⟩
    exact legible.numbers number (mem_parts_array_iff.mpr (Or.inr ⟨item, member, held⟩))
  · intro each
    refine ⟨depth_array_le_iff.mpr fun item member => (each item member).shallow, fun number held =>
      ?_⟩
    obtain ⟨item, member, inside⟩ := (mem_parts_array_iff.mp held).resolve_left nofun
    exact (each item member).numbers number inside

theorem legible_object_iff :
    (Document.object members ending).Legible sort (room + 1) ↔
      ∀ member ∈ members, member.2.Legible sort room := by
  constructor
  · intro legible member listed
    refine ⟨depth_object_le_iff.mp legible.shallow member listed, fun number held => ?_⟩
    exact legible.numbers number (mem_parts_object_iff.mpr (Or.inr ⟨member, listed, held⟩))
  · intro each
    refine ⟨depth_object_le_iff.mpr fun member listed => (each member listed).shallow,
      fun number held => ?_⟩
    obtain ⟨member, listed, inside⟩ := (mem_parts_object_iff.mp held).resolve_left nofun
    exact (each member listed).numbers number inside

/-! ### The document of a value -/

theorem ofJsonItems_eq_map (items : List Json) : ofJsonItems items = items.map ofJson := by
  induction items with
  | nil => rfl
  | cons item rest inductionHypothesis => rw [ofJsonItems, inductionHypothesis, List.map_cons]

theorem ofJsonMembers_eq_map (members : List (String × Json)) :
    ofJsonMembers members = members.map fun member => (.ok member.1, ofJson member.2) := by
  induction members with
  | nil => rfl
  | cons member rest inductionHypothesis =>
    rw [ofJsonMembers, inductionHypothesis, List.map_cons]

/-! ### The strict walk -/

theorem toJsonItems_eq_mapM (items : List Document) : toJsonItems items = items.mapM toJson := by
  induction items with
  | nil => rfl
  | cons item rest inductionHypothesis =>
    rw [toJsonItems, inductionHypothesis, List.mapM_cons]
    rfl

/-- The value of one member. -/
def toJsonMember (member : Except Flaw String × Document) : Except Flaw (String × Json) := do
  let name ← member.1
  let value ← member.2.toJson
  .ok (name, value)

theorem toJsonMember_eq_ok_iff {member : Except Flaw String × Document} {entry : String × Json} :
    toJsonMember member = .ok entry ↔ member.1 = .ok entry.1 ∧ member.2.toJson = .ok entry.2 := by
  rw [toJsonMember, bind_eq_ok_iff]
  constructor
  · rintro ⟨name, named, walked⟩
    obtain ⟨value, held, same⟩ := bind_eq_ok_iff.mp walked
    exact Except.ok.inj same ▸ ⟨named, held⟩
  · rintro ⟨named, held⟩
    exact ⟨entry.1, named, bind_eq_ok_iff.mpr ⟨entry.2, held, rfl⟩⟩

theorem toJsonMembers_eq_mapM (members : List (Except Flaw String × Document)) :
    toJsonMembers members = members.mapM toJsonMember := by
  induction members with
  | nil => rfl
  | cons member rest inductionHypothesis =>
    obtain ⟨name, content⟩ := member
    rw [toJsonMembers, inductionHypothesis, List.mapM_cons, toJsonMember]
    cases name with
    | error flaw => rfl
    | ok name => cases walked : content.toJson <;> rfl

theorem clear_eq_ok_iff {flaw : Option Flaw} : clear flaw = .ok () ↔ flaw = none := by
  cases flaw with
  | none => exact iff_of_true rfl rfl
  | some flaw => exact iff_of_false nofun nofun

/-- An array stands for the values of its items, if it is closed. -/
theorem toJson_array_eq_ok_iff {value : Json} :
    (Document.array items ending).toJson = .ok value ↔
      ∃ values, List.Forall₂ (fun item value => item.toJson = .ok value) items values ∧
        ending.inList = none ∧ value = .array values := by
  rw [toJson, toJsonItems_eq_mapM, bind_eq_ok_iff]
  refine exists_congr fun values => and_congr mapM_eq_ok_iff ?_
  rw [bind_eq_ok_iff]
  constructor
  · rintro ⟨⟨⟩, closed, same⟩
    exact ⟨clear_eq_ok_iff.mp closed, (Except.ok.inj same).symm⟩
  · rintro ⟨closed, rfl⟩
    exact ⟨(), clear_eq_ok_iff.mpr closed, rfl⟩

/-- An object stands for the bag of its members, if it is closed. -/
theorem toJson_object_eq_ok_iff {value : Json} :
    (Document.object members ending).toJson = .ok value ↔
      ∃ entries, List.Forall₂ (fun member entry =>
          member.1 = .ok entry.1 ∧ member.2.toJson = .ok entry.2) members entries ∧
        ending.inObject = none ∧ value = .object (Bag.ofMembers entries) := by
  rw [toJson, toJsonMembers_eq_mapM, bind_eq_ok_iff]
  refine exists_congr fun entries => and_congr ?_ ?_
  · rw [mapM_eq_ok_iff]
    exact ⟨fun walked => walked.imp fun _ _ => toJsonMember_eq_ok_iff.mp,
      fun walked => walked.imp fun _ _ => toJsonMember_eq_ok_iff.mpr⟩
  · rw [bind_eq_ok_iff]
    constructor
    · rintro ⟨⟨⟩, closed, same⟩
      exact ⟨clear_eq_ok_iff.mp closed, (Except.ok.inj same).symm⟩
    · rintro ⟨closed, rfl⟩
      exact ⟨(), clear_eq_ok_iff.mpr closed, rfl⟩

/-- Induction along a walk. Each item of an array comes from an item of the document, and each
member that is left of an object from one of its members. -/
theorem toJson_induct {motive : Document → Json → Prop} (null : motive .null .null)
    (bool : ∀ value, motive (.bool value) (.bool value))
    (number : ∀ value, motive (.number value) (.number value))
    (string : ∀ text, motive (.string text) (.string text))
    (array : ∀ items ending values, (∀ value ∈ values, ∃ item ∈ items, motive item value) →
      motive (.array items ending) (.array values))
    (object : ∀ members ending bag, Ascending Prod.fst bag →
      (∀ entry ∈ bag, ∃ member ∈ members, motive member.2 entry.2) →
        motive (.object members ending) (.object bag))
    {content : Document} {value : Json} (walked : content.toJson = .ok value) :
    motive content value := by
  induction content using induct generalizing value with
  | null => exact Except.ok.inj walked ▸ null
  | bool truth => exact Except.ok.inj walked ▸ bool truth
  | number held => exact Except.ok.inj walked ▸ number held
  | string text => exact Except.ok.inj walked ▸ string text
  | hugeNumber | badString | tooDeep | broken => cases walked
  | array items ending inductionHypothesis =>
    obtain ⟨values, matched, -, rfl⟩ := toJson_array_eq_ok_iff.mp walked
    refine array items ending values fun value held => ?_
    obtain ⟨item, listed, same⟩ := exists_left_of_forall₂ matched held
    exact ⟨item, listed, inductionHypothesis item listed same⟩
  | object members ending inductionHypothesis =>
    obtain ⟨entries, matched, -, rfl⟩ := toJson_object_eq_ok_iff.mp walked
    refine object members ending _ (Bag.ascending_ofMembers entries) fun entry held => ?_
    obtain ⟨member, listed, -, same⟩ :=
      exists_left_of_forall₂ matched (Bag.mem_of_mem_ofMembers held)
    exact ⟨member, listed, inductionHypothesis member listed same⟩

/-- The document of a value stands for the tidy value. -/
theorem toJson_ofJson (value : Json) : (ofJson value).toJson = .ok value.tidy := by
  induction value using Json.induct with
  | null | bool truth | number held | string text => rfl
  | array items inductionHypothesis =>
    refine toJson_array_eq_ok_iff.mpr ⟨items.map Json.tidy, ?_, rfl, ?_⟩
    · rwa [ofJsonItems_eq_map, List.forall₂_map_left_iff, List.forall₂_map_right_iff,
        List.forall₂_same]
    · rw [Json.tidy, Json.tidyItems_eq_map]
  | object members inductionHypothesis =>
    refine toJson_object_eq_ok_iff.mpr
      ⟨members.map fun member => (member.1, member.2.tidy), ?_, rfl, ?_⟩
    · rw [ofJsonMembers_eq_map, List.forall₂_map_left_iff, List.forall₂_map_right_iff,
        List.forall₂_same]
      exact fun member listed => ⟨rfl, inductionHypothesis member listed⟩
    · rw [Json.tidy, Json.tidyMembers_eq_map]

/-- A walk leaves nothing to be tidied. -/
theorem tidy_eq_self {content : Document} {value : Json} (walked : content.toJson = .ok value) :
    value.tidy = value := by
  refine toJson_induct (motive := fun _ value => value.tidy = value) rfl (fun _ => rfl)
    (fun _ => rfl) (fun _ => rfl) ?_ ?_ walked
  · intro items ending values each
    have same : values.map Json.tidy = values.map id := List.map_congr_left fun value held => by
      obtain ⟨item, -, tidy⟩ := each value held
      exact tidy
    rw [Json.tidy, Json.tidyItems_eq_map, same, List.map_id]
  · intro members ending bag ascending each
    have same : (bag.map fun entry => (entry.1, entry.2.tidy)) = bag.map id :=
      List.map_congr_left fun entry held => by
        obtain ⟨member, -, tidy⟩ := each entry held
        exact Prod.ext rfl tidy
    rw [Json.tidy, Json.tidyMembers_eq_map, same, List.map_id, Bag.ofMembers_eq_self ascending]

/-- The value that a walk comes to can be walked again. -/
theorem toJson_ofJson_of_walked {content : Document} {value : Json}
    (walked : content.toJson = .ok value) : (ofJson value).toJson = .ok value := by
  rw [toJson_ofJson, tidy_eq_self walked]

theorem legible_ofJson_array_iff {items : List Json} :
    (ofJson (.array items)).Legible sort (room + 1) ↔
      ∀ item ∈ items, (ofJson item).Legible sort room := by
  rw [ofJson, ofJsonItems_eq_map, legible_array_iff, List.forall_mem_map]

theorem legible_ofJson_object_iff {members : List (String × Json)} :
    (ofJson (.object members)).Legible sort (room + 1) ↔
      ∀ member ∈ members, (ofJson member.2).Legible sort room := by
  rw [ofJson, ofJsonMembers_eq_map, legible_object_iff, List.forall_mem_map]

/-- A walk adds no depth and no numbers. -/
theorem Legible.ofJson {content : Document} {value : Json} (legible : content.Legible sort room)
    (walked : content.toJson = .ok value) : (ofJson value).Legible sort room := by
  refine toJson_induct
    (motive := fun content value => ∀ room, content.Legible sort room →
      (Document.ofJson value).Legible sort room)
    (fun _ held => held) (fun _ _ held => held) (fun _ _ held => held) (fun _ _ held => held) ?_ ?_
    walked room legible
  · intro items ending values each room legible
    cases room with
    | zero => exact absurd legible.shallow (Nat.not_succ_le_zero _)
    | succ room =>
      refine legible_ofJson_array_iff.mpr fun value held => ?_
      obtain ⟨item, listed, known⟩ := each value held
      exact known room (legible_array_iff.mp legible item listed)
  · intro members ending bag _ each room legible
    cases room with
    | zero => exact absurd legible.shallow (Nat.not_succ_le_zero _)
    | succ room =>
      refine legible_ofJson_object_iff.mpr fun entry held => ?_
      obtain ⟨member, listed, known⟩ := each entry held
      exact known room (legible_object_iff.mp legible member listed)

theorem distinct_ofJson_array_iff {items : List Json} :
    (ofJson (.array items)).Distinct ↔ ∀ item ∈ items, (ofJson item).Distinct := by
  rw [ofJson, ofJsonItems_eq_map, ← List.forall_mem_map]
  generalize items.map ofJson = contents
  constructor
  · intro distinct content listed members ending held
    exact distinct members ending (mem_parts_array_iff.mpr (Or.inr ⟨content, listed, held⟩))
  · intro each members ending held
    obtain ⟨content, listed, inside⟩ := (mem_parts_array_iff.mp held).resolve_left nofun
    exact each content listed members ending inside

theorem distinct_ofJson_object_iff {members : List (String × Json)} :
    (ofJson (.object members)).Distinct ↔
      (members.map Prod.fst).Nodup ∧ ∀ member ∈ members, (ofJson member.2).Distinct := by
  have names : ((members.map fun member =>
      ((Except.ok member.1 : Except Flaw String), ofJson member.2)).map
      Prod.fst).Nodup ↔ (members.map Prod.fst).Nodup := by
    have regroup : (members.map fun member =>
        ((Except.ok member.1 : Except Flaw String), ofJson member.2)).map Prod.fst =
          (members.map Prod.fst).map Except.ok := by
      rw [List.map_map, List.map_map]
      rfl
    rw [regroup]
    exact List.nodup_map_iff fun _ _ => Except.ok.inj
  rw [ofJson, ofJsonMembers_eq_map, ← names]
  constructor
  · intro distinct
    refine ⟨distinct _ .closed (mem_parts_object_iff.mpr (Or.inl rfl)), ?_⟩
    intro member listed named ending held
    refine distinct named ending (mem_parts_object_iff.mpr (Or.inr ?_))
    exact ⟨(.ok member.1, ofJson member.2), List.mem_map_of_mem listed, held⟩
  · rintro ⟨own, each⟩ named ending held
    rcases mem_parts_object_iff.mp held with same | ⟨member, listed, inside⟩
    · cases same
      exact own
    · obtain ⟨entry, kept, rfl⟩ := List.mem_map.mp listed
      exact each entry kept named ending inside

/-- No object of a value that a walk comes to names two members alike. -/
theorem distinct_ofJson {content : Document} {value : Json} (walked : content.toJson = .ok value) :
    (ofJson value).Distinct := by
  refine toJson_induct (motive := fun _ value => (ofJson value).Distinct) ?_ ?_ ?_ ?_ ?_ ?_ walked
  · exact fun _ _ held => absurd (List.mem_singleton.mp held) nofun
  · exact fun _ _ _ held => absurd (List.mem_singleton.mp held) nofun
  · exact fun _ _ _ held => absurd (List.mem_singleton.mp held) nofun
  · exact fun _ _ _ held => absurd (List.mem_singleton.mp held) nofun
  · intro items ending values each
    refine distinct_ofJson_array_iff.mpr fun value held => ?_
    obtain ⟨item, -, distinct⟩ := each value held
    exact distinct
  · intro members ending bag ascending each
    refine distinct_ofJson_object_iff.mpr ⟨?_, fun entry held => ?_⟩
    · exact (List.pairwise_map.mpr ascending).imp ne_of_lt
    · obtain ⟨member, -, distinct⟩ := each entry held
      exact distinct

end Document

end FleetView
