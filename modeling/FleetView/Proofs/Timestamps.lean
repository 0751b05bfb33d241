/-
This file proves that points in time are read back from their text. The text is a row of
numbers with separators between them. All numbers but the year fill a width, and the reader
takes no more digits than that, so each number is read back whatever comes next; a year with
a sign and a fraction end because what follows is no digit. The numbers make a day that the
calendar has, and a time of that day.
-/

import Mathlib
import FleetView.Time.Reader
import FleetView.Proofs.Calendar
import FleetView.Proofs.Literals
import FleetView.Proofs.Traversal

namespace FleetView.Instant

open Numeral

/-! ### Numbers of a width -/

section

variable {width value : Nat}

theorem isDigit_of_mem_padded {char : Char} (member : char ∈ padded width value) :
    char.isDigit = true := by
  rcases List.mem_append.mp member with zero | digit
  · rw [List.eq_of_mem_replicate zero]
    rfl
  · exact Nat.isDigit_of_mem_toDigits (by decide) (by decide) digit

theorem sum_replicate_zero (count : Nat) (digits : List Nat) :
    sum 0 (List.replicate count 0 ++ digits) = sum 0 digits := by
  induction count with
  | zero => rfl
  | succ count inductionHypothesis => exact inductionHypothesis

theorem sum_padded (width value : Nat) : sum 0 ((padded width value).map digit) = value := by
  rw [padded, List.map_append, List.map_replicate]
  exact (sum_replicate_zero _ _).trans (sum_toDigits value)

theorem length_padded (positive : 0 < width) (below : value < 10 ^ width) :
    (padded width value).length = width := by
  have short := (Nat.length_toDigits_le_iff (by decide) positive).mpr below
  rw [padded, List.length_append, List.length_replicate]
  exact Nat.sub_add_cancel short

theorem exists_padded (width value : Nat) :
    ∃ first others, padded width value = first :: others ∧ first.isDigit = true := by
  cases written : padded width value with
  | nil => exact absurd (List.append_eq_nil_iff.mp written).2 Nat.toDigits_ne_nil
  | cons first others =>
    exact ⟨first, others, rfl, isDigit_of_mem_padded (written ▸ List.mem_cons_self)⟩

/-- Digits are read up to the limit, or up to what is no digit. -/
theorem readDigits_append {limit : Option Nat} {taken before : Nat} {text rest : List Char}
    (digital : ∀ char ∈ text, char.isDigit = true) (any : 0 < taken + text.length)
    (within : ∀ most, limit = some most → taken + text.length ≤ most)
    (ends : limit = some (taken + text.length) ∨ ∀ char ∈ rest.head?, char.isDigit = false)
    (fits : sum before (text.map digit) < Word.count 63) :
    readDigits limit taken before (text ++ rest) = .ok (sum before (text.map digit), rest) := by
  -- The digits behind the first one start from what that has added and from one taken more.
  induction text generalizing taken before with
  | nil =>
    have read : taken ≠ 0 := Nat.ne_of_gt any
    cases rest with
    | nil => exact if_neg read
    | cons char rest =>
      rw [List.nil_append, readDigits]
      split_ifs with full digit
      · rfl
      · rcases ends with full' | other
        · exact absurd full' full
        · exact absurd digit (ne_true_of_eq_false (other char rfl))
      · rfl
  | cons char text inductionHypothesis =>
    obtain ⟨first, others⟩ := List.forall_mem_cons.mp digital
    have next : taken + (char :: text).length = taken + 1 + text.length := by
      rw [List.length_cons]
      omega
    rw [next] at within ends
    have room : limit ≠ some taken := fun full => by
      have short := within taken full
      omega
    have small : before * 10 + (char.toNat - '0'.toNat) < Word.count 63 :=
      lt_of_le_of_lt (le_sum _ (text.map digit)) fits
    rw [List.cons_append, readDigits, if_neg room, if_pos first]
    dsimp only
    rw [if_pos small]
    exact inductionHypothesis others (by omega) within ends fits

theorem readDigits_padded {limit : Option Nat} {rest : List Char}
    (within : ∀ most, limit = some most → (padded width value).length ≤ most)
    (ends : limit = some (padded width value).length ∨ ∀ char ∈ rest.head?, char.isDigit = false)
    (fits : value < Word.count 63) :
    readDigits limit 0 0 (padded width value ++ rest) = .ok (value, rest) := by
  have told := sum_padded width value
  obtain ⟨first, others, written, -⟩ := exists_padded width value
  have any : 0 < (padded width value).length := by
    rw [written]
    exact Nat.succ_pos _
  have read : readDigits limit 0 0 (padded width value ++ rest) =
      .ok (sum 0 ((padded width value).map digit), rest) := by
    refine readDigits_append (fun _ => isDigit_of_mem_padded) ?_ ?_ ?_ (told.symm ▸ fits)
    · rwa [Nat.zero_add]
    · rwa [Nat.zero_add]
    · rwa [Nat.zero_add]
  rwa [told] at read

/-- A number that fills its width is read whatever comes next. -/
theorem readDigits_full (positive : 0 < width) (below : value < 10 ^ width)
    (fits : value < Word.count 63) (rest : List Char) :
    readDigits (some width) 0 0 (padded width value ++ rest) = .ok (value, rest) := by
  have length := length_padded positive below
  refine readDigits_padded (fun most same => ?_) (Or.inl ?_) fits
  · rw [length, Option.some.inj same]
  · rw [length]

end

/-! ### Parts of the text -/

theorem not_isBlank_of_isDigit {char : Char} (digit : char.isDigit = true) :
    Text.isBlank char = false := by
  have bounds : 48 ≤ char.toNat ∧ char.toNat ≤ 57 := by
    rw [Char.isDigit, Bool.and_eq_true, decide_eq_true_iff, decide_eq_true_iff] at digit
    exact digit
  simp only [Text.isBlank, Bool.or_eq_false_iff, Bool.and_eq_false_iff, decide_eq_false_iff_not,
    beq_eq_false_iff_ne]
  omega

theorem skipBlanks_padded (width value : Nat) (rest : List Char) :
    skipBlanks (padded width value ++ rest) = padded width value ++ rest := by
  obtain ⟨first, others, written, digit⟩ := exists_padded width value
  rw [written, List.cons_append]
  exact List.dropWhile_cons_of_neg (ne_true_of_eq_false (not_isBlank_of_isDigit digit))

theorem readPart_padded {low high value : Nat} (least : low ≤ value) (most : value ≤ high)
    (two : value < 100) (rest : List Char) :
    readPart low high (padded 2 value ++ rest) = .ok (value, rest) := by
  rw [readPart, skipBlanks_padded, readDigits_full (by decide) two (lt_trans two (by decide))]
  exact if_pos ⟨least, most⟩

theorem readMark_cons {mark : Char} (visible : Text.isBlank mark = false) (rest : List Char) :
    readMark mark (mark :: rest) = .ok rest := by
  rw [readMark, skipBlanks, List.dropWhile_cons_of_neg (ne_true_of_eq_false visible)]
  exact if_pos rfl

section

variable {value : Nat} {year : Int} {text rest : List Char} (fits : Word.holds 32 year = true)

include fits

/-- A digit is neither sign. -/
theorem readYear_digits {first : Char} (digit : first.isDigit = true)
    (read : readDigits (some 4) 0 0 (first :: text) = .ok (value, rest))
    (same : (value : Int) = year) : readYear (first :: text) = .ok (year, rest) := by
  have visible : skipBlanks (first :: text) = first :: text :=
    List.dropWhile_cons_of_neg (ne_true_of_eq_false (not_isBlank_of_isDigit digit))
  have made : (readDigits (some 4) 0 0 (first :: text)).map
      (fun read => ((read.1 : Int), read.2)) = .ok (year, rest) :=
    map_eq_ok_iff.mpr ⟨_, read, Prod.ext same rfl⟩
  rw [readYear, visible]
  split
  next sign => exact absurd ((List.cons.inj sign).1 ▸ digit) (by decide)
  next sign => exact absurd ((List.cons.inj sign).1 ▸ digit) (by decide)
  next =>
    rw [made]
    exact if_pos fits

theorem readYear_minus (read : readDigits none 0 0 text = .ok (value, rest))
    (same : -(value : Int) = year) : readYear ('-' :: text) = .ok (year, rest) := by
  have made : (readDigits none 0 0 text).map (fun read => (-(read.1 : Int), read.2)) =
      .ok (year, rest) := map_eq_ok_iff.mpr ⟨_, read, Prod.ext same rfl⟩
  show ((readDigits none 0 0 text).map (fun read => (-(read.1 : Int), read.2)) >>= _) = _
  rw [made]
  exact if_pos fits

theorem readYear_plus (read : readDigits none 0 0 text = .ok (value, rest))
    (same : (value : Int) = year) : readYear ('+' :: text) = .ok (year, rest) := by
  have made : (readDigits none 0 0 text).map (fun read => ((read.1 : Int), read.2)) =
      .ok (year, rest) := map_eq_ok_iff.mpr ⟨_, read, Prod.ext same rfl⟩
  show ((readDigits none 0 0 text).map (fun read => ((read.1 : Int), read.2)) >>= _) = _
  rw [made]
  exact if_pos fits

end

theorem readYear_yearText {year : Int} (fits : Word.holds 32 year = true) {rest : List Char}
    (ends : ∀ char ∈ rest.head?, char.isDigit = false) :
    readYear (yearText year ++ rest) = .ok (year, rest) := by
  have small : year.natAbs < Word.count 63 := by
    have bounds : -(Word.count 31 : Int) ≤ year ∧ year < Word.count 31 := by
      rwa [Word.holds, Bool.and_eq_true, decide_eq_true_iff, decide_eq_true_iff] at fits
    have wider : Word.count 31 < Word.count 63 := by decide
    omega
  have unlimited : readDigits none 0 0 (padded 4 year.natAbs ++ rest) = .ok (year.natAbs, rest) :=
    readDigits_padded nofun (Or.inr ends) small
  rw [yearText]
  split_ifs with plain negative
  · have four := readDigits_full (by decide) (by omega : year.toNat < 10 ^ 4) (by omega) rest
    obtain ⟨first, others, written, digit⟩ := exists_padded 4 year.toNat
    rw [written, List.cons_append] at four ⊢
    exact readYear_digits fits digit four (Int.toNat_of_nonneg plain.1)
  · exact readYear_minus fits unlimited (by omega)
  · exact readYear_plus fits unlimited (by omega)

/-- The digits that are not written count as zeros. -/
theorem readFraction_padded {width part : Nat} (positive : 0 < width) (most : width ≤ 9)
    (below : part < 10 ^ width) {rest : List Char}
    (ends : ∀ char ∈ rest.head?, char.isDigit = false) :
    readFraction ('.' :: padded width part ++ rest) = .ok (part * 10 ^ (9 - width), rest) := by
  have length := length_padded positive below
  have fits : part < Word.count 63 :=
    lt_of_lt_of_le below (le_trans (Nat.pow_le_pow_right (by decide) most) (by decide))
  have read : readDigits (some 9) 0 0 (padded width part ++ rest) = .ok (part, rest) := by
    refine readDigits_padded (fun limit same => ?_) (Or.inr ends) fits
    rwa [length, ← Option.some.inj same]
  have all : rest.dropWhile Char.isDigit = rest := by
    cases rest with
    | nil => rfl
    | cons char rest => exact List.dropWhile_cons_of_neg (ne_true_of_eq_false (ends char rfl))
  rw [List.cons_append, readFraction, read]
  show Except.ok (part * 10 ^ (9 - ((padded width part ++ rest).length - rest.length)),
    rest.dropWhile Char.isDigit) = _
  rw [List.length_append, Nat.add_sub_cancel, length, all]

theorem readFraction_fractionText {nanos : Nat} (below : nanos < 1000000000) {rest : List Char}
    (ends : ∀ char ∈ rest.head?, char.isDigit = false ∧ char ≠ '.') :
    readFraction (fractionText nanos ++ rest) = .ok (nanos, rest) := by
  have other : ∀ char ∈ rest.head?, char.isDigit = false := fun char next => (ends char next).1
  rw [fractionText]
  split_ifs with none millis micros
  · rw [none, List.nil_append, readFraction]
    rintro more rfl
    exact (ends '.' rfl).2 rfl
  · have same : nanos / 1000000 * 10 ^ (9 - 3) = nanos := by omega
    rw [readFraction_padded (by decide) (by decide) (by omega) other, same]
  · have same : nanos / 1000 * 10 ^ (9 - 6) = nanos := by omega
    rw [readFraction_padded (by decide) (by decide) (by omega) other, same]
  · rw [readFraction_padded (by decide) (by decide) below other, Nat.sub_self, Nat.pow_zero,
      Nat.mul_one]

/-! ### Points in time -/

theorem holds_of_yearInRange {year : Int} (inRange : CivilDate.yearInRange year = true) :
    Word.holds 32 year = true := by
  have wide : 262144 < Word.count (32 - 1) := by decide
  rw [CivilDate.yearInRange, Bool.and_eq_true, decide_eq_true_iff, decide_eq_true_iff] at inRange
  rw [Word.holds, Bool.and_eq_true, decide_eq_true_iff, decide_eq_true_iff]
  omega

/-- The seconds that can be held belong to days that the calendar has. -/
theorem isValid_of_inRange {seconds : Int} (held : inRange seconds = true) :
    (CivilDate.ofDays (seconds / 86400)).isValid = true := by
  rw [inRange, Bool.and_eq_true, decide_eq_true_iff, decide_eq_true_iff, firstSecond,
    lastSecond] at held
  exact CivilDate.isValid_ofDays (by omega) (by omega)

/-- Outside of leap seconds, the time of day and the fraction are written as they are. -/
theorem toList_text (seconds : Int) {nanos : Nat} (plain : nanos < 1000000000) :
    (text ⟨seconds, nanos⟩).toList =
      yearText (CivilDate.ofDays (seconds / 86400)).year ++
        '-' :: (padded 2 (CivilDate.ofDays (seconds / 86400)).month ++
        '-' :: (padded 2 (CivilDate.ofDays (seconds / 86400)).day ++
        'T' :: (padded 2 ((seconds % 86400).toNat / 3600) ++
        ':' :: (padded 2 ((seconds % 86400).toNat / 60 % 60) ++
        ':' :: (padded 2 ((seconds % 86400).toNat % 60) ++ (fractionText nanos ++ ['Z'])))))) := by
  have unleaped : isLeap ⟨seconds, nanos⟩ = false := decide_eq_false (not_le.mpr plain)
  simp only [text, dateText, clockText, unleaped, String.toList_ofList, List.append_assoc,
    List.cons_append, Bool.false_eq_true, if_false, Nat.add_zero]

/-- Every point in time that can be held, outside of leap seconds, is read back from its text. -/
theorem parse_text {seconds : Int} {nanos : Nat} (held : inRange seconds = true)
    (plain : nanos < 1000000000) : parse (text ⟨seconds, nanos⟩) = .ok ⟨seconds, nanos⟩ := by
  have valid := isValid_of_inRange held
  have number := CivilDate.toDays_ofDays (seconds / 86400)
  rw [parse, toList_text seconds plain]
  generalize CivilDate.ofDays (seconds / 86400) = date at valid number ⊢
  obtain ⟨year, month, day⟩ := date
  obtain ⟨inRange, first, final, least, most⟩ := CivilDate.bounds_of_isValid valid
  obtain ⟨second, isSecond⟩ : ∃ second, second = (seconds % 86400).toNat := ⟨_, rfl⟩
  rw [← isSecond]
  refine bind_eq_ok_iff.mpr ⟨_, readYear_yearText (holds_of_yearInRange inRange) ?_, ?_⟩
  · rintro char ⟨⟩
    rfl
  refine bind_eq_ok_iff.mpr ⟨_, readMark_cons rfl _, ?_⟩
  refine bind_eq_ok_iff.mpr ⟨_, readPart_padded first final (by omega) _, ?_⟩
  refine bind_eq_ok_iff.mpr ⟨_, readMark_cons rfl _, ?_⟩
  refine bind_eq_ok_iff.mpr ⟨_, readPart_padded least most (by omega) _, ?_⟩
  refine bind_eq_ok_iff.mpr ⟨_, rfl, ?_⟩
  refine bind_eq_ok_iff.mpr ⟨_, readPart_padded (Nat.zero_le _) (by omega) (by omega) _, ?_⟩
  refine bind_eq_ok_iff.mpr ⟨_, readMark_cons rfl _, ?_⟩
  refine bind_eq_ok_iff.mpr ⟨_, readPart_padded (Nat.zero_le _) (by omega) (by omega) _, ?_⟩
  refine bind_eq_ok_iff.mpr ⟨_, readMark_cons rfl _, ?_⟩
  refine bind_eq_ok_iff.mpr ⟨_, readPart_padded (Nat.zero_le _) (by omega) (by omega) _, ?_⟩
  refine bind_eq_ok_iff.mpr ⟨_, readFraction_fractionText plain ?_, ?_⟩
  · rintro char ⟨⟩
    decide
  refine bind_eq_ok_iff.mpr ⟨_, rfl, ?_⟩
  -- A sixtieth second would be a leap second, and no time of day here has one.
  have early : second % 60 ≠ 60 := by omega
  have whole : (⟨year, month, day⟩ : CivilDate).toDays * 86400 +
      ((second / 3600 * 3600 + second / 60 % 60 * 60 + second % 60 : Nat) : Int) - 0 =
        seconds := by
    rw [number]
    omega
  dsimp only
  rw [if_neg (fun more => more rfl), valid, if_neg (by decide), if_neg (by decide), if_neg early,
    if_neg early, whole]
  exact if_pos held

/-- What is made of a number of seconds is read back from its text. -/
theorem parse_text_of_ofEpoch? {seconds : Int} {instant : Instant}
    (made : ofEpoch? seconds = some instant) : parse instant.text = .ok instant := by
  rw [ofEpoch?] at made
  split_ifs at made with held
  obtain rfl := Option.some.inj made
  exact parse_text held (by decide)

end FleetView.Instant
