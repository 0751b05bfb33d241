/-
This file proves that requests survive being sent. What someone asks for in a command is
printed into the body of a request to the datacenter, member by member, with some members
left out where nothing was said. Decoding the body the way requests are decoded gives
back exactly what was asked for, as long as all numbers are integers of 64 bits and the
content of a stash is nested no deeper than texts are read.
-/

import Mathlib
import FleetView.Command.Relay
import FleetView.Proofs.Wire

namespace FleetView

/-! ### Bags that are written -/

/-- Nothing is to be tidied in an object whose names are in order and whose values are tidy. -/
theorem Json.tidy_object_iff {bag : Bag} :
    (Json.object bag).tidy = .object bag ↔
      Ascending Prod.fst bag ∧ ∀ entry ∈ bag, entry.2.tidy = entry.2 := by
  have each : (bag.map fun entry => (entry.1, entry.2.tidy)) = bag.map id ↔
      ∀ entry ∈ bag, entry.2.tidy = entry.2 :=
    List.map_inj_left.trans (forall₂_congr fun entry _ =>
      ⟨congrArg Prod.snd, fun tidy => Prod.ext rfl tidy⟩)
  rw [List.map_id] at each
  rw [Json.tidy, Json.tidyMembers_eq_map, Json.object.injEq, ← each]
  constructor
  · intro same
    have ascending : Ascending Prod.fst bag := same ▸ Bag.ascending_ofMembers _
    have kept : Ascending Prod.fst (bag.map fun entry => (entry.1, entry.2.tidy)) :=
      List.pairwise_map.mpr ascending
    exact ⟨ascending, Bag.ofMembers_eq_self kept ▸ same⟩
  · rintro ⟨ascending, tidy⟩
    rw [tidy, Bag.ofMembers_eq_self ascending]

/-- Where a member is put into a bag, the bag holds that one and all with other names. -/
theorem Bag.mem_insert_iff {name : String} {value : Json} {bag : Bag}
    (ascending : Ascending Prod.fst bag) {member : String × Json} :
    member ∈ bag.insert name value ↔ member = (name, value) ∨ member ∈ bag ∧ member.1 ≠ name := by
  induction bag with
  | nil => simp [insert]
  | cons first rest inductionHypothesis =>
    obtain ⟨above, ordered⟩ := List.pairwise_cons.mp ascending
    rw [insert]
    split
    · rename_i below
      have others : ∀ found ∈ first :: rest, found.1 ≠ name := by
        refine List.forall_mem_cons.mpr ⟨ne_of_gt below, fun found later => ?_⟩
        exact ne_of_gt (lt_trans below (above found later))
      rw [List.mem_cons, and_iff_left_of_imp (others member)]
    · split
      · rename_i same
        have others : ∀ found ∈ rest, found.1 ≠ name := fun found later =>
          same ▸ ne_of_gt (above found later)
        rw [List.mem_cons, List.mem_cons, or_and_right, and_iff_left_of_imp (others member)]
        have never : ¬ (member = first ∧ member.1 ≠ name) := fun both => both.2 (both.1 ▸ same.symm)
        rw [iff_false_intro never, false_or]
      · rename_i differs
        have kept : member = first → member.1 ≠ name := fun found => found ▸ Ne.symm differs
        rw [List.mem_cons, inductionHypothesis ordered, List.mem_cons, or_and_right,
          and_iff_left_of_imp kept, or_left_comm]

/-- A tidy bag is decoded from the object it is written as. -/
theorem Decoder.stands_bag {sort : Number → Prop} {room : Nat} {bag : Bag}
    (tidy : (Json.object bag).tidy = .object bag)
    (legible : (Document.ofJson (.object bag)).Legible sort (room + 1)) :
    Decoder.bag.Stands sort (room + 1) (.object bag) bag := by
  refine faithful_bag _ bag legible ?_
  have walked := Document.toJson_ofJson (.object bag)
  rw [tidy, Document.ofJson] at walked
  rw [Document.ofJson, Decoder.bag, walked]

/-! ### Requests that can be written -/

/-- Whether a number of seconds, if there is one, fits into 64 bits. -/
def Seconds (expire : Option Int) : Prop := ∀ seconds ∈ expire, Word.holds 64 seconds = true

/-- A request for a stash whose content is tidy and can be read: its numbers are integers of 64
bits, and one more level of nesting is left. -/
structure StashRequest.Fits (request : StashRequest) : Prop where
  tidy : (Json.object request.content).tidy = .object request.content
  numbers : (Document.ofJson (.object request.content)).Whole
  shallow : (Document.ofJson (.object request.content)).depth < JsonText.depthLimit
  seconds : Seconds request.expire

/-- The content of a stash still fits with a text put into it. -/
theorem StashRequest.Fits.insert {request : StashRequest} (fits : request.Fits)
    (name text : String) :
    StashRequest.Fits
      { request with content := Bag.insert name (.string text) request.content } := by
  obtain ⟨ascending, tidy⟩ := Json.tidy_object_iff.mp fits.tidy
  have legible : (Document.ofJson
      (.object (Bag.insert name (.string text) request.content))).Legible Number.Whole (125 + 1) := by
    have each : ∀ entry ∈ request.content, (Document.ofJson entry.2).Legible Number.Whole 125 :=
      Document.legible_ofJson_object_iff.mp ⟨Nat.le_of_lt_succ fits.shallow, fits.numbers⟩
    refine Document.legible_ofJson_object_iff.mpr fun entry held => ?_
    rcases Bag.mem_of_mem_insert held with rfl | old
    · exact (Decoder.stands_string text).legible
    · exact each entry old
  refine ⟨Json.tidy_object_iff.mpr ⟨Bag.ascending_insert _ _ ascending, fun entry held => ?_⟩,
    legible.numbers, Nat.lt_succ_of_le legible.shallow, fits.seconds⟩
  rcases Bag.mem_of_mem_insert held with rfl | old
  · rfl
  · exact tidy entry old

/-! ### Writing and decoding again -/

section

open Decoder Record

variable {room : Nat}

theorem stands_seconds {expire : Option Int} (fits : Seconds expire) :
    Decoder.i64.optional.Stands Number.Whole room (.int? expire) expire := by
  cases expire with
  | none => exact stands_none
  | some seconds =>
    have bounds := fits seconds rfl
    rw [Word.holds, Bool.and_eq_true, decide_eq_true_iff, decide_eq_true_iff] at bounds
    have wider : Word.count (64 - 1) < Word.count 64 := by decide
    refine (stands_integer ⟨bounds.1, Int.le_sub_one_of_lt bounds.2⟩ ⟨bounds.1, ?_⟩).some nofun
    omega

/-- A field that is written only when there is a value. -/
theorem Record.Spells.omitted {α β : Type} {record : Record (Option α → β)} {sort : Number → Prop}
    {entries : List (String × Json)} {build : Option α → β} {name : String} {decoder : Decoder α}
    {encode : α → Json} {value : Option α} (spells : record.Spells sort room entries build)
    (fresh : name ∉ record.names)
    (stands : decoder.optional.Stands sort room (Json.option encode value) value) :
    (record.defaulted name none decoder.optional).Spells sort room
      (entries ++ Json.memberOfOption name encode value) (build value) :=
  spells.written fresh stands (memberOfOption_cases name encode value)

theorem SilenceRequest.stands {request : SilenceRequest} (fits : Seconds request.expire) :
    SilenceRequest.decoder.Stands Number.Whole (room + 1) request.toJson request := by
  refine Spells.closed (Spells.field (Spells.omitted (Spells.omitted (Spells.omitted
    (Spells.omitted (Spells.omitted (spells_of _) ?_ (stands_text request.subscription)) ?_
      (stands_text request.check)) ?_ (stands_text request.reason)) ?_
      (stands_text request.creator)) ?_ (stands_seconds fits)) ?_
      (stands_bool request.expireOnResolve)) ?_ <;> decide

theorem StashRequest.stands {request : StashRequest} (fits : request.Fits) :
    StashRequest.decoder.Stands Number.Whole JsonText.depthLimit request.toJson request := by
  have kept : Decoder.bag.Stands Number.Whole (125 + 1) (.object request.content) request.content :=
    stands_bag fits.tidy ⟨Nat.le_of_lt_succ fits.shallow, fits.numbers⟩
  refine Spells.closed (Spells.omitted (Spells.field (Spells.field (spells_of _) ?_
    (stands_string request.path)) ?_ kept) ?_ (stands_seconds fits.seconds)) ?_ <;> decide

theorem ExecutionRequest.stands (request : ExecutionRequest) :
    ExecutionRequest.decoder.Stands Number.Whole (room + 2) request.toJson request := by
  have named : ((Record.of ExecutionRequest.mk).required "check" .string).Spells Number.Whole
      (room + 1) [("check", .string request.check)] (ExecutionRequest.mk request.check) :=
    Spells.field (spells_of _) (by decide) (stands_string request.check)
  have listed : (((Record.of ExecutionRequest.mk).required "check" .string).defaulted "subscribers"
      [] (.list .string)).Spells Number.Whole (room + 1)
      ([("check", .string request.check)] ++ (if request.subscribers = [] then []
        else [("subscribers", .strings request.subscribers)]))
      (ExecutionRequest.mk request.check request.subscribers) := by
    split
    · rename_i none
      rw [List.append_nil]
      exact named.without (by decide) (congrArg some none.symm)
    · exact named.field (by decide) (stands_strings request.subscribers)
  exact Spells.closed (listed.omitted (by decide) (stands_text request.reason)) (by decide)

end

end FleetView
