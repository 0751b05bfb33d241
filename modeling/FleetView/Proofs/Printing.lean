/-
This file is about reading what has been printed. Where all numbers of a value are integers
of 64 bits and the value is not nested too deeply, its printed text is read as the very
document of the value, with or without spaces in it. The reader has three steps for every
character of such a text, which is more than it takes. What has been read from a text is
never nested too deeply, so the value of a text can be printed and read as often as one
likes.
-/

import Mathlib
import FleetView.Proofs.Layouts
import FleetView.Proofs.Literals

namespace FleetView

namespace JsonText

variable {depth fuel level : Nat} {rest text gap : List Char} {content : Document} {value : Json}

/-! ### Spaces -/

theorem skipSpace_cons {char : Char} (visible : isSpace char = false) (rest : List Char) :
    skipSpace (char :: rest) = char :: rest :=
  List.dropWhile_cons_of_neg (ne_true_of_eq_false visible)

theorem mem_of_isSpace {char : Char} (space : isSpace char = true) :
    char ∈ [' ', '\n', '\t', '\r'] := by
  simpa [isSpace, or_assoc] using space

section

variable (spaces : ∀ char ∈ gap, isSpace char = true)

include spaces

theorem skipSpace_append (rest : List Char) : skipSpace (gap ++ rest) = skipSpace rest :=
  List.dropWhile_append_of_pos spaces

/-- Spaces in front of a value go unnoticed. -/
theorem readValue_gap (rest : List Char) :
    readValue fuel depth (gap ++ rest) = readValue fuel depth rest := by
  cases fuel with
  | zero => rw [readValue, readValue]
  | succ fuel => rw [readValue, readValue, skipSpace_append spaces]

theorem readItems_gap (first : Bool) (rest : List Char) :
    readItems fuel depth first (gap ++ rest) = readItems fuel depth first rest := by
  cases fuel with
  | zero => rw [readItems, readItems]
  | succ fuel => rw [readItems, readItems, skipSpace_append spaces]

theorem readMembers_gap (first : Bool) (rest : List Char) :
    readMembers fuel depth first (gap ++ rest) = readMembers fuel depth first rest := by
  cases fuel with
  | zero => rw [readMembers, readMembers]
  | succ fuel => rw [readMembers, readMembers, skipSpace_append spaces]

theorem apart_gap (apart : Apart rest) : Apart (gap ++ rest) := by
  cases gap with
  | nil => exact apart
  | cons char gap =>
    rintro _ ⟨⟩
    have listed := mem_of_isSpace (spaces char List.mem_cons_self)
    exact List.mem_cons_of_mem _ (List.mem_cons_of_mem _ (List.mem_cons_of_mem _ listed))

end

/-! ### Values -/

/-- A text that begins as no space and no closing bracket does, and that is read back where so
many arrays and objects are open. -/
structure ReadsBack (depth : Nat) (text : List Char) (content : Document) : Prop where
  begins : ∃ first others, text = first :: others ∧ isSpace first = false ∧ first ≠ ']'
  read : ∀ fuel rest, 3 * text.length ≤ fuel → Apart rest →
    readValue fuel depth (text ++ rest) = (content, rest)

/-- The text of a value is not empty, so there is a step to be taken. -/
theorem ReadsBack.of_step
    (begins : ∃ first others, text = first :: others ∧ isSpace first = false ∧ first ≠ ']')
    (step : ∀ fuel rest, 3 * text.length ≤ fuel + 1 → Apart rest →
      readValue (fuel + 1) depth (text ++ rest) = (content, rest)) :
    ReadsBack depth text content := by
  refine ⟨begins, fun fuel rest enough apart => ?_⟩
  obtain ⟨first, others, written, -⟩ := begins
  have positive : 0 < fuel := by
    rw [written, List.length_cons] at enough
    omega
  obtain ⟨spare, rfl⟩ := Nat.exists_eq_succ_of_ne_zero (Nat.ne_of_gt positive)
  exact step spare rest enough apart

theorem readsBack_null : ReadsBack depth (Json.chars .null) .null := by
  refine .of_step ⟨'n', ['u', 'l', 'l'], by rw [Json.chars], rfl, by decide⟩ fun fuel rest _ _ => ?_
  rw [Json.chars, readValue]
  rfl

theorem readsBack_bool (truth : Bool) :
    ReadsBack depth (Json.chars (.bool truth)) (.bool truth) := by
  cases truth with
  | false =>
    refine .of_step ⟨'f', ['a', 'l', 's', 'e'], by rw [Json.chars], rfl, by decide⟩
      fun fuel rest _ _ => ?_
    rw [Json.chars, readValue]
    rfl
  | true =>
    refine .of_step ⟨'t', ['r', 'u', 'e'], by rw [Json.chars], rfl, by decide⟩
      fun fuel rest _ _ => ?_
    rw [Json.chars, readValue]
    rfl

theorem quote_append (text : String) (rest : List Char) :
    Json.quote text ++ rest = '"' :: (text.toList.flatMap Json.escape ++ '"' :: rest) := by
  rw [Json.quote, List.cons_append, List.append_assoc, List.singleton_append]

theorem readsBack_string (text : String) :
    ReadsBack depth (Json.chars (.string text)) (.string text) := by
  refine .of_step ⟨'"', _, by rw [Json.chars, Json.quote], rfl, by decide⟩ fun fuel rest _ _ => ?_
  rw [Json.chars, quote_append, readValue, skipSpace_cons rfl]
  simp only [readString_quote]

theorem not_isSpace_of_isDigit {char : Char} (digital : char.isDigit = true) :
    isSpace char = false := by
  have spaces : ∀ space ∈ [' ', '\n', '\t', '\r'], space.isDigit = false := by simp
  refine eq_false_of_ne_true fun space => ?_
  exact absurd digital (ne_true_of_eq_false (spaces char (mem_of_isSpace space)))

/-- A sign or a digit begins a numeral and nothing else. -/
theorem readValue_number {char : Char} (opens : char = '-' ∨ char.isDigit = true) :
    readValue (fuel + 1) depth (char :: rest) = readNumber (char :: rest) := by
  rcases opens with rfl | digital
  · rw [readValue]
    rfl
  · have literals : ∀ other ∈ ['n', 't', 'f', '"', '[', '\x7b'], other.isDigit = false := by simp
    have differs : ∀ other ∈ ['n', 't', 'f', '"', '[', '\x7b'], char ≠ other := by
      intro other member same
      exact absurd digital (ne_true_of_eq_false (same ▸ literals other member))
    rw [readValue, skipSpace_cons (not_isSpace_of_isDigit digital)]
    split <;> simp_all

theorem readsBack_integer {number : Int} (whole : (Number.integer number).Whole) :
    ReadsBack depth (Json.chars (.number (.integer number))) (.number (.integer number)) := by
  have written : (Json.number (.integer number)).chars = Number.integerText number := by
    rw [Json.chars, Number.text, String.toList_ofList]
  obtain ⟨first, others, spelled, opens⟩ := exists_integerText number
  have visible : isSpace first = false ∧ first ≠ ']' := by
    rcases opens with rfl | digital
    · exact ⟨rfl, by decide⟩
    · exact ⟨not_isSpace_of_isDigit digital, fun same => absurd (same ▸ digital) (by decide)⟩
  refine .of_step ⟨first, others, written.trans spelled, visible⟩ fun fuel rest _ apart => ?_
  rw [written, spelled, List.cons_append, readValue_number opens, ← List.cons_append, ← spelled,
    readNumber_integerText whole apart]

/-! ### Arrays -/

section

variable {layout : Json.Layout} {item : Json}

theorem readItems_first (back : ReadsBack depth text content) :
    readItems (fuel + 1) depth true (text ++ rest) = readItem fuel depth (text ++ rest) := by
  obtain ⟨first, others, written, visible, noBracket⟩ := back.begins
  rw [written, List.cons_append, readItems, skipSpace_cons visible]
  split
  · rename_i same
    cases same
  · rename_i same
    exact absurd (List.cons.inj same).1 noBracket
  · rename_i same
    rw [if_pos rfl, same]

theorem readItems_next (spaces : ∀ char ∈ gap, isSpace char = true)
    (back : ReadsBack depth text content) :
    readItems (fuel + 1) depth false (',' :: (gap ++ (text ++ rest))) =
      readItem fuel depth (text ++ rest) := by
  obtain ⟨first, others, written, visible, noBracket⟩ := back.begins
  rw [written, List.cons_append, readItems, skipSpace_cons rfl]
  simp [skipSpace_append spaces, skipSpace_cons visible, noBracket]

theorem readItem_text (back : ReadsBack depth text content) (enough : 3 * text.length ≤ fuel)
    (apart : Apart rest) :
    readItem (fuel + 1) depth (text ++ rest) =
      (content :: (readItems fuel depth false rest).1, (readItems fuel depth false rest).2) := by
  rw [readItem, back.read fuel rest enough apart]

theorem apart_charsOfItems (items : List Json) :
    Apart (layout.charsOfItems level items ++ rest) := by
  cases items with
  | nil =>
    rw [Json.Layout.charsOfItems, List.append_assoc]
    exact apart_gap (layout.gap_spaces level) (by simp [Apart])
  | cons item items => simp [Json.Layout.charsOfItems, Apart]

/-- The items behind the first one are read back one after the other. -/
theorem readItems_charsOfItems {items : List Json}
    (each : ∀ item ∈ items,
      ReadsBack depth (layout.chars (level + 1) item) (Document.ofJson item))
    (enough : 3 * (layout.charsOfItems level items).length ≤ fuel) :
    readItems fuel depth false (layout.charsOfItems level items ++ rest) =
      (items.map Document.ofJson, .closed, rest) := by
  induction items generalizing fuel with
  | nil =>
    rw [Json.Layout.charsOfItems, List.length_append, List.length_singleton] at enough
    obtain ⟨spare, rfl⟩ : ∃ spare, fuel = spare + 1 := ⟨fuel - 1, by omega⟩
    rw [Json.Layout.charsOfItems, List.append_assoc, readItems_gap (layout.gap_spaces level),
      readItems]
    rfl
  | cons item items inductionHypothesis =>
    obtain ⟨back, others⟩ := List.forall_mem_cons.mp each
    rw [Json.Layout.charsOfItems, List.length_cons, List.length_append,
      List.length_append] at enough
    -- One step takes the comma and one the item. The comma alone pays for three.
    obtain ⟨spare, rfl⟩ : ∃ spare, fuel = spare + 2 := ⟨fuel - 2, by omega⟩
    rw [Json.Layout.charsOfItems, List.cons_append, List.append_assoc, List.append_assoc,
      readItems_next (layout.gap_spaces _) back, readItem_text back (by omega)
        (apart_charsOfItems items), inductionHypothesis others (by omega), List.map_cons]

theorem readValue_array :
    readValue (fuel + 1) depth ('[' :: rest) =
      (nest depth (.array (readItems fuel (depth + 1) true rest).1
        (readItems fuel (depth + 1) true rest).2.1),
        (readItems fuel (depth + 1) true rest).2.2) := by
  rw [readValue]
  rfl

theorem readsBack_array {items : List Json} (room : depth < depthLimit)
    (each : ∀ item ∈ items,
      ReadsBack (depth + 1) (layout.chars (level + 1) item) (Document.ofJson item)) :
    ReadsBack depth (layout.chars level (.array items)) (Document.ofJson (.array items)) := by
  have followed : Document.ofJson (.array items) =
      nest depth (.array (items.map Document.ofJson) .closed) := by
    rw [Document.ofJson, Document.ofJsonItems_eq_map, nest, if_pos room]
  cases items with
  | nil =>
    rw [Json.Layout.chars]
    refine .of_step ⟨'[', [']'], rfl, rfl, by decide⟩ fun fuel rest enough _ => ?_
    rw [List.length_cons, List.length_singleton] at enough
    obtain ⟨spare, rfl⟩ : ∃ spare, fuel = spare + 1 := ⟨fuel - 1, by omega⟩
    have empty : readItems (spare + 1) (depth + 1) true (']' :: rest) = ([], .closed, rest) := by
      rw [readItems]
      rfl
    rw [followed, List.cons_append, readValue_array, List.singleton_append, empty, List.map_nil]
  | cons item items =>
    obtain ⟨back, others⟩ := List.forall_mem_cons.mp each
    rw [Json.Layout.chars]
    refine .of_step ⟨'[', _, rfl, rfl, by decide⟩ fun fuel rest enough _ => ?_
    rw [List.length_cons, List.length_append, List.length_append] at enough
    obtain ⟨spare, rfl⟩ : ∃ spare, fuel = spare + 2 := ⟨fuel - 2, by omega⟩
    rw [followed, List.cons_append, readValue_array, List.append_assoc, List.append_assoc,
      readItems_gap (layout.gap_spaces _), readItems_first back,
      readItem_text back (by omega) (apart_charsOfItems items),
      readItems_charsOfItems others (by omega), List.map_cons]

/-! ### Objects -/

theorem readValue_object :
    readValue (fuel + 1) depth ('\x7b' :: rest) =
      (nest depth (.object (readMembers fuel (depth + 1) true rest).1
        (readMembers fuel (depth + 1) true rest).2.1),
        (readMembers fuel (depth + 1) true rest).2.2) := by
  rw [readValue]
  rfl

theorem readMembers_first (name : String) :
    readMembers (fuel + 1) depth true (Json.quote name ++ rest) =
      readMember fuel depth (Json.quote name ++ rest) := by
  rw [quote_append, readMembers]
  rfl

theorem readMembers_next (spaces : ∀ char ∈ gap, isSpace char = true) (name : String) :
    readMembers (fuel + 1) depth false (',' :: (gap ++ (Json.quote name ++ rest))) =
      readMember fuel depth (Json.quote name ++ rest) := by
  have opens : ∀ more, skipSpace (gap ++ '"' :: more) = '"' :: more := fun more =>
    (skipSpace_append spaces _).trans (skipSpace_cons rfl more)
  rw [quote_append, readMembers, skipSpace_cons rfl]
  simp [opens]

theorem readMember_text (spaces : ∀ char ∈ gap, isSpace char = true) (name : String)
    (back : ReadsBack depth text content) (enough : 3 * text.length ≤ fuel) (apart : Apart rest) :
    readMember (fuel + 1) depth (Json.quote name ++ ':' :: (gap ++ (text ++ rest))) =
      ((.ok name, content) :: (readMembers fuel depth false rest).1,
        (readMembers fuel depth false rest).2) := by
  rw [quote_append, readMember]
  simp only [readString_quote]
  rw [skipSpace_cons rfl]
  simp only [readValue_gap spaces, back.read fuel rest enough apart]

theorem apart_charsOfMembers (members : List (String × Json)) :
    Apart (layout.charsOfMembers level members ++ rest) := by
  cases members with
  | nil =>
    rw [Json.Layout.charsOfMembers, List.append_assoc]
    exact apart_gap (layout.gap_spaces level) (by simp [Apart])
  | cons member members => simp [Json.Layout.charsOfMembers, Apart]

/-- The members behind the first one are read back one after the other. -/
theorem readMembers_charsOfMembers {members : List (String × Json)}
    (each : ∀ member ∈ members,
      ReadsBack depth (layout.chars (level + 1) member.2) (Document.ofJson member.2))
    (enough : 3 * (layout.charsOfMembers level members).length ≤ fuel) :
    readMembers fuel depth false (layout.charsOfMembers level members ++ rest) =
      (members.map fun member => (.ok member.1, Document.ofJson member.2), .closed, rest) := by
  induction members generalizing fuel with
  | nil =>
    rw [Json.Layout.charsOfMembers, List.length_append, List.length_singleton] at enough
    obtain ⟨spare, rfl⟩ : ∃ spare, fuel = spare + 1 := ⟨fuel - 1, by omega⟩
    rw [Json.Layout.charsOfMembers, List.append_assoc, readMembers_gap (layout.gap_spaces level),
      readMembers]
    rfl
  | cons member members inductionHypothesis =>
    obtain ⟨name, value⟩ := member
    have back : ReadsBack depth (layout.chars (level + 1) value) (Document.ofJson value) :=
      each (name, value) List.mem_cons_self
    have others := (List.forall_mem_cons.mp each).2
    rw [Json.Layout.charsOfMembers, List.length_cons, List.length_append, List.length_append,
      List.length_cons, List.length_append, List.length_append] at enough
    obtain ⟨spare, rfl⟩ : ∃ spare, fuel = spare + 2 := ⟨fuel - 2, by omega⟩
    rw [Json.Layout.charsOfMembers, List.cons_append, List.append_assoc, List.append_assoc,
      List.cons_append, List.append_assoc, List.append_assoc,
      readMembers_next (layout.gap_spaces _),
      readMember_text layout.pause_spaces name back (by omega) (apart_charsOfMembers members),
      inductionHypothesis others (by omega), List.map_cons]

theorem readsBack_object {members : List (String × Json)} (room : depth < depthLimit)
    (each : ∀ member ∈ members,
      ReadsBack (depth + 1) (layout.chars (level + 1) member.2) (Document.ofJson member.2)) :
    ReadsBack depth (layout.chars level (.object members)) (Document.ofJson (.object members)) := by
  have followed : Document.ofJson (.object members) =
      nest depth (.object (members.map fun member => (.ok member.1, Document.ofJson member.2))
        .closed) := by
    rw [Document.ofJson, Document.ofJsonMembers_eq_map, nest, if_pos room]
  cases members with
  | nil =>
    rw [Json.Layout.chars]
    refine .of_step ⟨'\x7b', ['\x7d'], rfl, rfl, by decide⟩ fun fuel rest enough _ => ?_
    rw [List.length_cons, List.length_singleton] at enough
    obtain ⟨spare, rfl⟩ : ∃ spare, fuel = spare + 1 := ⟨fuel - 1, by omega⟩
    have empty : readMembers (spare + 1) (depth + 1) true ('\x7d' :: rest) =
        ([], .closed, rest) := by
      rw [readMembers]
      rfl
    rw [followed, List.cons_append, readValue_object, List.singleton_append, empty, List.map_nil]
  | cons member members =>
    obtain ⟨name, value⟩ := member
    have back : ReadsBack (depth + 1) (layout.chars (level + 1) value) (Document.ofJson value) :=
      each (name, value) List.mem_cons_self
    have others := (List.forall_mem_cons.mp each).2
    rw [Json.Layout.chars]
    refine .of_step ⟨'\x7b', _, rfl, rfl, by decide⟩ fun fuel rest enough _ => ?_
    rw [List.length_cons, List.length_append, List.length_append, List.length_cons,
      List.length_append, List.length_append] at enough
    obtain ⟨spare, rfl⟩ : ∃ spare, fuel = spare + 2 := ⟨fuel - 2, by omega⟩
    rw [followed, List.cons_append, readValue_object, List.append_assoc, List.append_assoc,
      List.cons_append, List.append_assoc, List.append_assoc, readMembers_gap (layout.gap_spaces _),
      readMembers_first,
      readMember_text layout.pause_spaces name back (by omega) (apart_charsOfMembers members),
      readMembers_charsOfMembers others (by omega), List.map_cons]

/-- A value of integers of 64 bits is read back where there is room for its depth, however it is
laid out. -/
theorem readsBack {value : Json} {room : Nat}
    (legible : (Document.ofJson value).Legible Number.Whole room)
    (fits : depth + room ≤ depthLimit) :
    ReadsBack depth (layout.chars level value) (Document.ofJson value) := by
  induction value using Json.induct generalizing depth room level with
  | null => exact readsBack_null
  | bool truth => exact readsBack_bool truth
  | string text => exact readsBack_string text
  | number number =>
    have whole : number.Whole := legible.numbers number List.mem_cons_self
    cases number with
    | integer number => exact readsBack_integer whole
    | double bits => exact absurd whole id
  | array items inductionHypothesis =>
    cases room with
    | zero => exact absurd legible.shallow (Nat.not_succ_le_zero _)
    | succ room =>
      refine readsBack_array (by omega) fun item member => ?_
      exact inductionHypothesis item member
        (Document.legible_ofJson_array_iff.mp legible item member) (by omega)
  | object members inductionHypothesis =>
    cases room with
    | zero => exact absurd legible.shallow (Nat.not_succ_le_zero _)
    | succ room =>
      refine readsBack_object (by omega) fun member listed => ?_
      exact inductionHypothesis member listed
        (Document.legible_ofJson_object_iff.mp legible member listed) (by omega)

end

end JsonText

namespace Document

/-- A printed value is read as what it is, with nothing but spaces behind it. -/
theorem read_layout {value : Json} (layout : Json.Layout) {rest : List Char}
    (spaces : ∀ char ∈ rest, JsonText.isSpace char = true)
    (legible : (ofJson value).Legible Number.Whole JsonText.depthLimit) :
    read (String.ofList (layout.chars 0 value ++ rest)) = ⟨ofJson value, false⟩ := by
  have back : JsonText.readValue (3 * (layout.chars 0 value ++ rest).length + 3) 0
      (layout.chars 0 value ++ rest) = (ofJson value, rest) := by
    have enough : 3 * (layout.chars 0 value).length ≤
        3 * (layout.chars 0 value ++ rest).length + 3 := by
      rw [List.length_append]
      omega
    refine (JsonText.readsBack legible (Nat.le_of_eq (Nat.zero_add _))).read _ rest enough ?_
    have behind : Apart (rest ++ []) := JsonText.apart_gap spaces fun _ next => nomatch next
    rwa [List.append_nil] at behind
  have nothing : JsonText.skipSpace rest = [] := by
    have skipped := JsonText.skipSpace_append spaces []
    rwa [List.append_nil] at skipped
  rw [read, String.toList_ofList, back]
  dsimp only
  rw [nothing]
  rfl

/-- A value that is printed without spaces is read as what it is. -/
theorem read_compact {value : Json}
    (legible : (ofJson value).Legible Number.Whole JsonText.depthLimit) :
    read value.compact = ⟨ofJson value, false⟩ := by
  have nothing : ∀ char ∈ [], JsonText.isSpace char = true := fun _ member =>
    absurd member List.not_mem_nil
  have known := read_layout .dense nothing legible
  rwa [Json.Layout.chars_dense, List.append_nil] at known

/-- So is one that is printed over several lines and has a line end behind it. -/
theorem read_pretty {value : Json}
    (legible : (ofJson value).Legible Number.Whole JsonText.depthLimit) :
    read (value.pretty ++ "\n") = ⟨ofJson value, false⟩ := by
  have known := read_layout .indented (List.forall_mem_singleton.mpr rfl :
    ∀ char ∈ ['\n'], JsonText.isSpace char = true) legible
  rwa [Json.Layout.chars_indented, String.ofList_append] at known

end Document

/-! ### How far the reader follows -/

namespace JsonText

/-- Whatever the reader makes of a text with so many steps left leaves room for the arrays and
objects that are open around it. -/
structure Shallow (fuel : Nat) : Prop where
  value : ∀ depth text, (readValue fuel depth text).1.depth ≤ depthLimit - depth
  items : ∀ depth first text, ∀ item ∈ (readItems fuel depth first text).1,
    item.depth ≤ depthLimit - depth
  item : ∀ depth text, ∀ item ∈ (readItem fuel depth text).1, item.depth ≤ depthLimit - depth
  members : ∀ depth first text, ∀ member ∈ (readMembers fuel depth first text).1,
    member.2.depth ≤ depthLimit - depth
  member : ∀ depth text, ∀ member ∈ (readMember fuel depth text).1,
    member.2.depth ≤ depthLimit - depth

theorem depth_nest_le {depth : Nat} {content : Document}
    (inside : depth < depthLimit → content.depth ≤ depthLimit - (depth + 1) + 1) :
    (nest depth content).depth ≤ depthLimit - depth := by
  rw [nest]
  split
  · rename_i room
    have known := inside room
    omega
  · exact Nat.zero_le _

theorem depth_readIdent (content : Document) (due text : List Char) :
    (readIdent content due text).1.depth ≤ content.depth := by
  induction due generalizing text with
  | nil => exact le_rfl
  | cons char due inductionHypothesis =>
    cases text with
    | nil => exact Nat.zero_le _
    | cons next text =>
      rw [readIdent]
      split
      · exact inductionHypothesis text
      · exact Nat.zero_le _

theorem depth_readNumber (text : List Char) : (readNumber text).1.depth = 0 := by
  rw [readNumber]
  split
  · rfl
  · split
    · rfl
    · rfl

variable {fuel : Nat}

theorem Shallow.next_value (shallow : Shallow fuel) (depth : Nat) (text : List Char) :
    (readValue (fuel + 1) depth text).1.depth ≤ depthLimit - depth := by
  rw [readValue]
  split
  · exact Nat.zero_le _
  · exact le_trans (depth_readIdent _ _ _) (Nat.zero_le _)
  · exact le_trans (depth_readIdent _ _ _) (Nat.zero_le _)
  · exact le_trans (depth_readIdent _ _ _) (Nat.zero_le _)
  · split
    · exact Nat.zero_le _
    · exact Nat.zero_le _
    · exact Nat.zero_le _
  · exact depth_nest_le fun _ => Document.depth_array_le_iff.mpr (shallow.items _ _ _)
  · exact depth_nest_le fun _ => Document.depth_object_le_iff.mpr (shallow.members _ _ _)
  · split
    · exact le_of_eq_of_le (depth_readNumber _) (Nat.zero_le _)
    · exact Nat.zero_le _

theorem Shallow.next_items (shallow : Shallow fuel) (depth : Nat) (first : Bool)
    (text : List Char) : ∀ item ∈ (readItems (fuel + 1) depth first text).1,
      item.depth ≤ depthLimit - depth := by
  rw [readItems]
  split
  · exact fun _ member => absurd member List.not_mem_nil
  · exact fun _ member => absurd member List.not_mem_nil
  · split_ifs
    · exact shallow.item _ _
    · split
      · exact fun _ member => absurd member List.not_mem_nil
      · exact shallow.item _ _
    · exact fun _ member => absurd member List.not_mem_nil

theorem Shallow.next_item (shallow : Shallow fuel) (depth : Nat) (text : List Char) :
    ∀ item ∈ (readItem (fuel + 1) depth text).1, item.depth ≤ depthLimit - depth := by
  rw [readItem]
  exact List.forall_mem_cons.mpr ⟨shallow.value _ _, shallow.items _ _ _⟩

theorem Shallow.next_members (shallow : Shallow fuel) (depth : Nat) (first : Bool)
    (text : List Char) : ∀ member ∈ (readMembers (fuel + 1) depth first text).1,
      member.2.depth ≤ depthLimit - depth := by
  rw [readMembers]
  split
  · exact fun _ member => absurd member List.not_mem_nil
  · exact fun _ member => absurd member List.not_mem_nil
  · split_ifs
    · exact shallow.member _ _
    · split
      · exact fun _ member => absurd member List.not_mem_nil
      · exact fun _ member => absurd member List.not_mem_nil
      · exact shallow.member _ _
    · exact fun _ member => absurd member List.not_mem_nil

theorem Shallow.next_member (shallow : Shallow fuel) (depth : Nat) (text : List Char) :
    ∀ member ∈ (readMember (fuel + 1) depth text).1, member.2.depth ≤ depthLimit - depth := by
  rw [readMember.eq_def]
  dsimp only
  split
  · split
    · exact fun _ member => absurd member List.not_mem_nil
    · split
      · exact List.forall_mem_cons.mpr ⟨shallow.value _ _, shallow.members _ _ _⟩
      · exact List.forall_mem_singleton.mpr (Nat.zero_le _)
      · exact List.forall_mem_singleton.mpr (Nat.zero_le _)
  · exact fun _ member => absurd member List.not_mem_nil

theorem shallow (fuel : Nat) : Shallow fuel := by
  induction fuel with
  | zero =>
    refine ⟨fun depth text => ?_, fun depth first text => ?_, fun depth text => ?_,
      fun depth first text => ?_, fun depth text => ?_⟩
    · rw [readValue]
      exact Nat.zero_le _
    · rw [readItems]
      exact fun _ member => absurd member List.not_mem_nil
    · rw [readItem]
      exact fun _ member => absurd member List.not_mem_nil
    · rw [readMembers]
      exact fun _ member => absurd member List.not_mem_nil
    · rw [readMember]
      exact fun _ member => absurd member List.not_mem_nil
  | succ fuel inductionHypothesis =>
    exact ⟨inductionHypothesis.next_value, inductionHypothesis.next_items,
      inductionHypothesis.next_item, inductionHypothesis.next_members,
      inductionHypothesis.next_member⟩

end JsonText

theorem Document.depth_read_le (text : String) :
    (read text).content.depth ≤ JsonText.depthLimit :=
  (JsonText.shallow (3 * text.toList.length + 3)).value 0 text.toList

/-- The value of a text is the value of its own printed text. -/
theorem Json.parse_compact {text : String} {value : Json} (parsed : parse text = .ok value)
    (whole : (Document.read text).content.Whole) : parse value.compact = .ok value := by
  have walked : (Document.read text).content.toJson = .ok value := by
    obtain ⟨found, walked, closed⟩ := bind_eq_ok_iff.mp parsed
    split at closed
    · cases closed
    · rwa [← Except.ok.inj closed]
  have legible : (Document.read text).content.Legible Number.Whole JsonText.depthLimit :=
    ⟨Document.depth_read_le text, whole⟩
  have again : Document.read value.compact = ⟨Document.ofJson value, false⟩ :=
    Document.read_compact (legible.ofJson walked)
  rw [parse, again]
  dsimp only
  rw [Document.toJson_ofJson_of_walked walked]
  rfl

end FleetView
