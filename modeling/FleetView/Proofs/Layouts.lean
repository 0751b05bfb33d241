/-
This file is about where printed values have spaces. There are two ways to print a value,
without any spaces and over several lines, and they differ in nothing else: both are one
way of printing, with a layout that says what spaces stand in front of the things at each
level and behind a colon. So what is said of a printed text for all layouts holds of both.
-/

import Mathlib
import FleetView.Json.Printer
import FleetView.Proofs.Values

namespace FleetView.Json

/-- What stands between the parts of a printed text, which is nothing but spaces. -/
structure Layout where
  /-- In front of whatever starts at a level. -/
  gap : Nat → List Char
  /-- Behind a colon. -/
  pause : List Char
  gap_spaces : ∀ level, ∀ char ∈ gap level, JsonText.isSpace char = true
  pause_spaces : ∀ char ∈ pause, JsonText.isSpace char = true

namespace Layout

mutual

/-- The characters of a value that starts at a level. -/
def chars (layout : Layout) (level : Nat) : Json → List Char
  | .array [] => ['[', ']']
  | .array (item :: items) =>
    '[' :: (layout.gap (level + 1) ++
      (layout.chars (level + 1) item ++ layout.charsOfItems level items))
  | .object [] => ['\x7b', '\x7d']
  | .object ((name, value) :: members) =>
    '\x7b' :: (layout.gap (level + 1) ++ (quote name ++ ':' :: (layout.pause ++
      (layout.chars (level + 1) value ++ layout.charsOfMembers level members))))
  | .null => Json.chars .null
  | .bool value => Json.chars (.bool value)
  | .number value => Json.chars (.number value)
  | .string text => Json.chars (.string text)

/-- The rest of an array after its first item. -/
def charsOfItems (layout : Layout) (level : Nat) : List Json → List Char
  | [] => layout.gap level ++ [']']
  | item :: items =>
    ',' :: (layout.gap (level + 1) ++
      (layout.chars (level + 1) item ++ layout.charsOfItems level items))

/-- The rest of an object after its first member. -/
def charsOfMembers (layout : Layout) (level : Nat) : List (String × Json) → List Char
  | [] => layout.gap level ++ ['\x7d']
  | (name, value) :: members =>
    ',' :: (layout.gap (level + 1) ++ (quote name ++ ':' :: (layout.pause ++
      (layout.chars (level + 1) value ++ layout.charsOfMembers level members))))

end

/-! ### The two layouts -/

/-- No spaces at all. -/
def dense : Layout := ⟨fun _ => [], [], nofun, nofun⟩

/-- A line for each item and each member. -/
def indented : Layout where
  gap := newline
  pause := [' ']
  gap_spaces := by
    intro level char member
    rcases List.mem_cons.mp member with rfl | blank
    · rfl
    · rw [List.eq_of_mem_replicate blank]
      rfl
  pause_spaces := by simp [JsonText.isSpace]

mutual

theorem chars_dense (level : Nat) : ∀ value : Json, dense.chars level value = value.chars
  | .null | .bool _ | .number _ | .string _ => by rw [chars]
  | .array [] | .object [] => by rw [chars, Json.chars]
  | .array (item :: items) => by
    rw [chars, Json.chars, chars_dense (level + 1) item, charsOfItems_dense level items]
    rfl
  | .object ((name, value) :: members) => by
    rw [chars, Json.chars, chars_dense (level + 1) value, charsOfMembers_dense level members]
    rfl

theorem charsOfItems_dense (level : Nat) :
    ∀ items : List Json, dense.charsOfItems level items = Json.charsOfItems items
  | [] => by
    rw [charsOfItems, Json.charsOfItems]
    rfl
  | item :: items => by
    rw [charsOfItems, Json.charsOfItems, chars_dense (level + 1) item,
      charsOfItems_dense level items]
    rfl

theorem charsOfMembers_dense (level : Nat) :
    ∀ members : List (String × Json), dense.charsOfMembers level members =
      Json.charsOfMembers members
  | [] => by
    rw [charsOfMembers, Json.charsOfMembers]
    rfl
  | (name, value) :: members => by
    rw [charsOfMembers, Json.charsOfMembers, chars_dense (level + 1) value,
      charsOfMembers_dense level members]
    rfl

end

mutual

theorem chars_indented (level : Nat) :
    ∀ value : Json, indented.chars level value = value.prettyChars level
  | .null | .bool _ | .number _ | .string _ | .array [] | .object [] => by
    rw [chars, Json.prettyChars]
  | .array (item :: items) => by
    rw [chars, Json.prettyChars, chars_indented (level + 1) item,
      charsOfItems_indented level items, List.append_assoc]
    rfl
  | .object ((name, value) :: members) => by
    rw [chars, Json.prettyChars, chars_indented (level + 1) value,
      charsOfMembers_indented level members, List.append_assoc]
    rfl

theorem charsOfItems_indented (level : Nat) :
    ∀ items : List Json, indented.charsOfItems level items = prettyItems level items
  | [] => by
    rw [charsOfItems, prettyItems]
    rfl
  | item :: items => by
    rw [charsOfItems, prettyItems, chars_indented (level + 1) item,
      charsOfItems_indented level items, List.append_assoc]
    rfl

theorem charsOfMembers_indented (level : Nat) :
    ∀ members : List (String × Json), indented.charsOfMembers level members =
      prettyMembers level members
  | [] => by
    rw [charsOfMembers, prettyMembers]
    rfl
  | (name, value) :: members => by
    rw [charsOfMembers, prettyMembers, chars_indented (level + 1) value,
      charsOfMembers_indented level members, List.append_assoc]
    rfl

end

end Layout

end FleetView.Json
