/-
This file is about values that are written and decoded again. A value stands in a written
form when that form is not nested too deeply, repeats no member name and is decoded to the
value. Decoders that only ever come to values which stand in their written forms are
faithful. A record is put together field by field, and so is the proof that it is
faithful: the fields so far are spelled by some members, and each further field adds the
member that it is written as, or none where its value is what stands for an absent field.
-/

import Mathlib
import FleetView.Proofs.Members

namespace FleetView

namespace Decoder

/-- A written form from which a decoder recovers the value, with room for its depth. -/
structure Stands {α : Type} (decoder : Decoder α) (sort : Number → Prop) (room : Nat)
    (written : Json) (value : α) : Prop where
  legible : (Document.ofJson written).Legible sort room
  distinct : (Document.ofJson written).Distinct
  recovered : decoder .text (Document.ofJson written) = .ok value

/-- Whatever comes out of a document stands in its written form, in the room of the document. -/
def Faithful {α : Type} (decoder : Decoder α) (sort : Number → Prop) (room : Nat)
    (encode : α → Json) : Prop :=
  ∀ (content : Document) (value : α), content.Legible sort room →
    decoder .text content = .ok value → decoder.Stands sort room (encode value) value

variable {sort : Number → Prop} {room : Nat}

/-! ### Plain values -/

/-- A value that holds no others stands where it is decoded from, numbers being as wanted. -/
theorem stands_of_flat {α : Type} {decoder : Decoder α} {written : Json} {value : α}
    (flat : (Document.ofJson written).parts = [Document.ofJson written])
    (shallow : (Document.ofJson written).depth = 0)
    (walked : (Document.ofJson written).toJson = .ok written)
    (numbers : ∀ number, written = .number number → sort number)
    (recovered : decoder .text (Document.ofJson written) = .ok value) :
    decoder.Stands sort room written value := by
  refine ⟨⟨le_of_eq_of_le shallow (Nat.zero_le _), fun number held => ?_⟩,
    Document.distinct_ofJson walked, recovered⟩
  rw [flat, List.mem_singleton] at held
  refine numbers number ?_
  rw [← held] at walked
  exact (Except.ok.inj walked).symm

theorem stands_string (text : String) : Decoder.string.Stands sort room (.string text) text :=
  stands_of_flat rfl rfl rfl nofun rfl

theorem stands_bool (truth : Bool) : Decoder.bool.Stands sort room (.bool truth) truth :=
  stands_of_flat rfl rfl rfl nofun rfl

theorem faithful_string : Decoder.string.Faithful sort room .string :=
  fun _ value _ _ => stands_string value

theorem faithful_bool : Decoder.bool.Faithful sort room .bool :=
  fun _ value _ _ => stands_bool value

/-- An integer within the bounds is decoded as it is. -/
theorem stands_integer {low high : Int} {expected : String} {value : Int}
    (bounds : low ≤ value ∧ value ≤ high) (sound : sort (.integer value)) :
    (Decoder.integer low high expected).Stands sort room (.int value) value := by
  refine stands_of_flat rfl rfl rfl (fun number same => ?_) (if_pos bounds)
  exact Json.number.inj same ▸ sound

/-- Only integers within the bounds are decoded. -/
theorem bounds_of_integer_eq_ok {source : Source} {low high : Int} {expected : String}
    {content : Document} {value : Int}
    (decoded : Decoder.integer low high expected source content = .ok value) :
    low ≤ value ∧ value ≤ high := by
  rw [integer.eq_def] at decoded
  split at decoded
  · split at decoded
    · rename_i bounds
      exact Except.ok.inj decoded ▸ bounds
    · cases decoded
  · exact absurd decoded (mismatch_ne_ok _ _ _)

/-- The decoder of naturals of 64 bits, whatever it calls them. -/
def natural (expected : String) : Decoder Nat :=
  (integer 0 ((Word.count 64 : Int) - 1) expected).map Int.toNat

theorem stands_natural {expected : String} {value : Nat} (below : value < Word.count 64)
    (sound : sort (.integer value)) :
    (natural expected).Stands sort room (.nat value) value := by
  have stands : (integer 0 ((Word.count 64 : Int) - 1) expected).Stands sort room (.int value)
      (value : Int) := stands_integer (by omega) sound
  refine ⟨stands.legible, stands.distinct, ?_⟩
  exact map_eq_ok_iff.mpr ⟨value, stands.recovered, Int.toNat_natCast value⟩

theorem below_of_natural_eq_ok {source : Source} {expected : String} {content : Document}
    {value : Nat} (decoded : natural expected source content = .ok value) :
    value < Word.count 64 := by
  obtain ⟨found, inner, rfl⟩ := map_eq_ok_iff.mp decoded
  have bounds := bounds_of_integer_eq_ok inner
  omega

section

variable (wide : ∀ number : Number, number.Whole → sort number)

include wide

theorem faithful_natural (expected : String) : (natural expected).Faithful sort room .nat := by
  intro content value _ decoded
  have below := below_of_natural_eq_ok decoded
  exact stands_natural below (wide _ ⟨by omega, by omega⟩)

theorem faithful_i64 : Decoder.i64.Faithful sort room .int := by
  intro content value _ decoded
  have bounds := bounds_of_integer_eq_ok decoded
  have wider : Word.count 63 < Word.count 64 := by decide
  exact stands_integer bounds (wide _ ⟨bounds.1, by omega⟩)

theorem faithful_i32 : Decoder.i32.Faithful sort room .int := by
  intro content value _ decoded
  have bounds := bounds_of_integer_eq_ok decoded
  have wider : Word.count 31 < Word.count 63 ∧ Word.count 31 < Word.count 64 := by decide
  exact stands_integer bounds (wide _ ⟨by omega, by omega⟩)

end

/-! ### Values that hold others -/

variable {α : Type} {decoder : Decoder α} {encode : α → Json}

theorem faithful_json : Decoder.json.Faithful sort room id := by
  intro content value legible decoded
  have walked := json_eq_ok_iff.mp decoded
  exact ⟨legible.ofJson walked, Document.distinct_ofJson walked,
    json_eq_ok_iff.mpr (Document.toJson_ofJson_of_walked walked)⟩

theorem stands_none : decoder.optional.Stands sort room .null none :=
  stands_of_flat rfl rfl rfl nofun rfl

theorem Stands.some {written : Json} {value : α} (stands : decoder.Stands sort room written value)
    (present : written ≠ .null) : decoder.optional.Stands sort room written (some value) := by
  refine ⟨stands.legible, stands.distinct, ?_⟩
  have carried : (decoder .text (Document.ofJson written)).map Option.some =
      .ok (Option.some value) := by
    rw [stands.recovered]
    rfl
  cases written with
  | null => exact absurd rfl present
  | _ => exact carried

theorem Faithful.optional (faithful : decoder.Faithful sort room encode)
    (present : ∀ value, encode value ≠ .null) :
    decoder.optional.Faithful sort room (Json.option encode) := by
  intro content value legible decoded
  have inner : value = none ∨
      ∃ held, value = Option.some held ∧ decoder .text content = .ok held := by
    rw [Decoder.optional.eq_def] at decoded
    split at decoded
    · exact Or.inl (Except.ok.inj decoded).symm
    · obtain ⟨held, found, same⟩ := map_eq_ok_iff.mp decoded
      exact Or.inr ⟨held, same.symm, found⟩
  rcases inner with rfl | ⟨held, rfl, found⟩
  · exact stands_none
  · exact (faithful content held legible found).some (present held)

/-- Items are decoded exactly when each of them is. -/
theorem items_eq_ok_iff {source : Source} {position : Nat} {contents : List Document}
    {values : List α} :
    items decoder source position contents = .ok values ↔
      List.Forall₂ (fun content value => decoder source content = .ok value) contents values := by
  induction contents generalizing position values with
  | nil =>
    rw [List.forall₂_nil_left_iff]
    exact ⟨fun same => (Except.ok.inj same).symm, fun same => same ▸ rfl⟩
  | cons content contents inductionHypothesis =>
    rw [items, List.forall₂_cons_left_iff, bind_eq_ok_iff]
    constructor
    · rintro ⟨value, first, rest⟩
      obtain ⟨others, found, same⟩ := bind_eq_ok_iff.mp rest
      exact ⟨value, others, mapError_eq_ok_iff.mp first, inductionHypothesis.mp found,
        (Except.ok.inj same).symm⟩
    · rintro ⟨value, others, first, found, rfl⟩
      exact ⟨value, mapError_eq_ok_iff.mpr first,
        bind_eq_ok_iff.mpr ⟨others, inductionHypothesis.mpr found, rfl⟩⟩

/-- A list is decoded from an array that is closed, item by item. -/
theorem list_eq_ok_iff {source : Source} {content : Document} {values : List α} :
    Decoder.list decoder source content = .ok values ↔
      ∃ items ending, content = .array items ending ∧ ending.inList = none ∧
        List.Forall₂ (fun item value => decoder source item = .ok value) items values := by
  constructor
  · intro decoded
    rw [Decoder.list.eq_def] at decoded
    split at decoded
    · obtain ⟨found, went, rest⟩ := bind_eq_ok_iff.mp decoded
      obtain ⟨⟨⟩, closed, same⟩ := bind_eq_ok_iff.mp rest
      rw [Except.ok.inj same] at went
      exact ⟨_, _, rfl, unflawed_eq_ok_iff.mp closed, items_eq_ok_iff.mp went⟩
    · cases decoded
    · exact absurd decoded (mismatch_ne_ok _ _ _)
  · rintro ⟨items, ending, rfl, closed, each⟩
    exact bind_eq_ok_iff.mpr ⟨values, items_eq_ok_iff.mpr each,
      bind_eq_ok_iff.mpr ⟨(), unflawed_eq_ok_iff.mpr closed, rfl⟩⟩

/-- A list comes from an array, and each of its values from one of the items. -/
theorem of_list_eq_ok {source : Source} {content : Document} {values : List α}
    (decoded : Decoder.list decoder source content = .ok values) :
    ∃ items ending, content = .array items ending ∧
      ∀ value ∈ values, ∃ item ∈ items, decoder source item = .ok value := by
  obtain ⟨items, ending, same, -, each⟩ := list_eq_ok_iff.mp decoded
  exact ⟨items, ending, same, fun value => exists_left_of_forall₂ each⟩

/-- Items that stand each in their written form stand together. -/
theorem stands_list {values : List α}
    (each : ∀ value ∈ values, decoder.Stands sort room (encode value) value) :
    (Decoder.list decoder).Stands sort (room + 1) (.array (values.map encode)) values := by
  refine ⟨Document.legible_ofJson_array_iff.mpr ?_, Document.distinct_ofJson_array_iff.mpr ?_, ?_⟩
  · exact List.forall_mem_map.mpr fun value held => (each value held).legible
  · exact List.forall_mem_map.mpr fun value held => (each value held).distinct
  · refine list_eq_ok_iff.mpr ⟨_, .closed, Document.ofJson.eq_def _, rfl, ?_⟩
    rw [Document.ofJsonItems_eq_map, List.forall₂_map_left_iff, List.forall₂_map_left_iff]
    exact List.forall₂_same.mpr fun value held => (each value held).recovered

theorem Faithful.list (faithful : decoder.Faithful sort room encode) :
    (Decoder.list decoder).Faithful sort (room + 1) fun values => .array (values.map encode) := by
  intro content values legible decoded
  obtain ⟨items, ending, rfl, each⟩ := of_list_eq_ok decoded
  refine stands_list fun value held => ?_
  obtain ⟨item, listed, single⟩ := each value held
  exact faithful item value (Document.legible_array_iff.mp legible item listed) single

theorem faithful_strings : (Decoder.list .string).Faithful sort (room + 1) .strings :=
  faithful_string.list

theorem stands_empty_bag : Decoder.bag.Stands sort (room + 1) (.object []) [] := by
  refine ⟨?_, ?_, rfl⟩
  · exact Document.legible_ofJson_object_iff.mpr fun _ held => absurd held List.not_mem_nil
  · exact @Document.distinct_ofJson (.object [] .closed) _ rfl

theorem faithful_bag : Decoder.bag.Faithful sort (room + 1) .object := by
  intro content bag legible decoded
  have walked : content.toJson = .ok (.object bag) := by
    rw [Decoder.bag.eq_def] at decoded
    split at decoded
    · split at decoded
      · rename_i walked
        exact Except.ok.inj decoded ▸ walked
      · rename_i other walked
        obtain ⟨entries, -, -, same⟩ := Document.toJson_object_eq_ok_iff.mp walked
        exact absurd same (other _)
      · cases decoded
    · cases decoded
    · exact absurd decoded (mismatch_ne_ok _ _ _)
  refine ⟨legible.ofJson walked, Document.distinct_ofJson walked, ?_⟩
  have again := Document.toJson_ofJson_of_walked walked
  rw [Document.ofJson] at again ⊢
  rw [Decoder.bag, again]

end Decoder

end FleetView
