/-
This file is about texts that are cut at a mark and joined with it. Both are what the
library does with lists of characters. So joining undoes cutting, and parts without a
mark in them are found again in what they have been joined to; then nothing is lost by
writing them one behind the other.
-/

import Mathlib
import FleetView.Text.Blank

namespace FleetView.Text

/-! ### Cutting -/

section

variable {mark : Char} {text : List Char}

theorem splitOn_eq (mark : Char) (text : List Char) : splitOn mark text = text.splitOn mark := by
  induction text with
  | nil => rfl
  | cons char rest inductionHypothesis =>
    rw [splitOn, List.splitOn_cons_eq_if_modifyHead, inductionHypothesis]
    by_cases same : char = mark
    · rw [if_pos same, if_pos (beq_iff_eq.mpr same)]
    · rw [if_neg same, if_neg (beq_iff_eq.not.mpr same)]
      cases cut : rest.splitOn mark with
      | nil => exact absurd cut (List.splitOn_ne_nil _ _)
      | cons part parts => rfl

theorem exists_splitOn_eq_cons (mark : Char) (text : List Char) :
    ∃ part parts, splitOn mark text = part :: parts :=
  List.exists_cons_of_ne_nil (splitOn_eq mark text ▸ List.splitOn_ne_nil _ _)

theorem splitOn_cons {char : Char} (other : char ≠ mark) {part : List Char}
    {parts : List (List Char)} (cut : splitOn mark text = part :: parts) :
    splitOn mark (char :: text) = (char :: part) :: parts := by
  rw [splitOn, if_neg other, cut]

/-- No part has the mark in it. -/
theorem not_mem_of_mem_splitOn {part : List Char} (member : part ∈ splitOn mark text) :
    mark ∉ part := by
  induction text generalizing part with
  | nil => exact List.mem_singleton.mp member ▸ List.not_mem_nil
  | cons char rest inductionHypothesis =>
    by_cases same : char = mark
    · rw [splitOn, if_pos same] at member
      rcases List.mem_cons.mp member with rfl | behind
      · exact List.not_mem_nil
      · exact inductionHypothesis behind
    · obtain ⟨first, more, cut⟩ := exists_splitOn_eq_cons mark rest
      rw [splitOn_cons same cut] at member
      rw [cut] at inductionHypothesis
      rcases List.mem_cons.mp member with rfl | behind
      · exact List.not_mem_cons_of_ne_of_not_mem (Ne.symm same)
          (inductionHypothesis List.mem_cons_self)
      · exact inductionHypothesis (List.mem_cons_of_mem _ behind)

/-- What stands in front without a mark belongs to the first part. -/
theorem splitOn_append {front part : List Char} {parts : List (List Char)} (free : mark ∉ front)
    (cut : splitOn mark text = part :: parts) :
    splitOn mark (front ++ text) = (front ++ part) :: parts := by
  induction front with
  | nil => exact cut
  | cons char rest inductionHypothesis =>
    obtain ⟨other, behind⟩ := List.ne_and_not_mem_of_not_mem_cons free
    exact splitOn_cons (Ne.symm other) (inductionHypothesis behind)

end

/-! ### Joining -/

variable {mark : String}

theorem joinWith_cons {part : String} {parts : List String} (more : parts ≠ []) :
    joinWith mark (part :: parts) = part ++ mark ++ joinWith mark parts := by
  rw [joinWith]
  exact more

theorem toList_joinWith (mark : String) (parts : List String) :
    (joinWith mark parts).toList = mark.toList.intercalate (parts.map String.toList) := by
  induction parts with
  | nil => rfl
  | cons part rest inductionHypothesis =>
    by_cases alone : rest = []
    · rw [alone, List.map_singleton, List.intercalate_singleton, joinWith]
    · rw [joinWith_cons alone, String.toList_append, String.toList_append, inductionHypothesis,
        List.map_cons, List.intercalate_cons_of_ne_nil (List.map_eq_nil_iff.not.mpr alone)]

theorem joinWith_ne_empty {part : String} (filled : part ≠ "") (parts : List String) :
    joinWith mark (part :: parts) ≠ "" := by
  by_cases alone : parts = []
  · rwa [alone]
  · rw [joinWith_cons alone, String.append_assoc]
    exact fun empty => filled (String.append_eq_empty_iff.mp empty).1

theorem not_mem_joinWith {char : Char} {parts : List String} (markFree : char ∉ mark.toList)
    (free : ∀ part ∈ parts, char ∉ part.toList) : char ∉ (joinWith mark parts).toList := by
  induction parts with
  | nil => exact List.not_mem_nil
  | cons part rest inductionHypothesis =>
    obtain ⟨here, behind⟩ := List.forall_mem_cons.mp free
    by_cases alone : rest = []
    · rwa [alone]
    · simp only [joinWith_cons alone, String.toList_append, List.mem_append, not_or]
      exact ⟨⟨here, markFree⟩, inductionHypothesis behind⟩

/-- Of a single part that is joined with others nothing is lost. -/
theorem part_of_joinWith_eq {one other : String} {front behind : List String}
    (same : joinWith mark (front ++ one :: behind) = joinWith mark (front ++ other :: behind)) :
    one = other := by
  induction front with
  | nil =>
    by_cases alone : behind = []
    · rwa [alone] at same
    · rw [List.nil_append, List.nil_append, joinWith_cons alone, joinWith_cons alone,
        String.append_assoc, String.append_assoc] at same
      exact (String.append_left_inj _).mp same
  | cons part rest inductionHypothesis =>
    have filled : ∀ cell, rest ++ cell :: behind ≠ [] := fun cell =>
      List.append_ne_nil_of_right_ne_nil _ (List.cons_ne_nil cell behind)
    rw [List.cons_append, List.cons_append, joinWith_cons (filled one),
      joinWith_cons (filled other)] at same
    exact inductionHypothesis ((String.append_right_inj _).mp same)

/-! ### Both -/

/-- Joining the parts that a text is cut into gives the text back. -/
theorem joinWith_splitOn (mark : Char) (text : List Char) :
    joinWith (String.ofList [mark]) ((splitOn mark text).map String.ofList) =
      String.ofList text := by
  have chars : String.toList ∘ String.ofList = id := funext fun _ => String.toList_ofList
  rw [← String.toList_inj, toList_joinWith, List.map_map, chars, List.map_id, splitOn_eq,
    String.toList_ofList, String.toList_ofList, List.intercalate_splitOn]

/-- Parts without the mark that have been joined are found again. -/
theorem splitOn_joinWith {mark : Char} {parts : List String} (filled : parts ≠ [])
    (free : ∀ part ∈ parts, mark ∉ part.toList) :
    splitOn mark (joinWith (String.ofList [mark]) parts).toList = parts.map String.toList := by
  rw [splitOn_eq, toList_joinWith, String.toList_ofList]
  exact List.splitOn_intercalate mark (List.forall_mem_map.mpr free)
    (List.map_eq_nil_iff.not.mpr filled)

theorem eq_of_joinWith_eq (mark : Char) {parts others : List String} (filled : parts ≠ [])
    (otherFilled : others ≠ []) (free : ∀ part ∈ parts, mark ∉ part.toList)
    (otherFree : ∀ part ∈ others, mark ∉ part.toList)
    (same : joinWith (String.ofList [mark]) parts = joinWith (String.ofList [mark]) others) :
    parts = others := by
  have cut := splitOn_joinWith filled free
  rw [same, splitOn_joinWith otherFilled otherFree] at cut
  exact List.map_injective_iff.mpr (fun _ _ => String.toList_inj.mp) cut.symm

end FleetView.Text
