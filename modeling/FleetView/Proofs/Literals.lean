/-
This file is about reading the smallest things that are printed. A string is read back
character by character: the reader takes one piece for whatever stands for a character in
the text, and makes the character of that piece. A numeral is read back because the printer
puts no zero in front and the digits add up to the number again; this holds for integers
that fit into 64 bits, with anything behind them that does not carry the numeral on.
-/

import Mathlib
import FleetView.Proofs.Values

namespace FleetView

namespace JsonText

/-! ### Strings -/

theorem hexValue?_hexDigit {value : Nat} (small : value < 16) :
    hexValue? (Json.hexDigit value) = some value := by
  revert value
  decide

theorem unit?_hexDigits {code : Nat} (small : code < 0x20) :
    unit? '0' '0' (Json.hexDigit (code / 16)) (Json.hexDigit (code % 16)) = some code := by
  have high : hexValue? (Json.hexDigit (code / 16)) = some (code / 16) :=
    hexValue?_hexDigit (by omega)
  have low : hexValue? (Json.hexDigit (code % 16)) = some (code % 16) :=
    hexValue?_hexDigit (Nat.mod_lt _ (by decide))
  have zero : hexValue? '0' = some 0 := rfl
  rw [unit?, zero, high, low]
  show some (((0 * 16 + 0) * 16 + code / 16) * 16 + code % 16) = some code
  rw [Nat.zero_mul, Nat.zero_add, Nat.div_add_mod' code 16]

/-- The reader takes one piece for what stands for a character in a string. -/
theorem exists_piece (char : Char) :
    ∃ piece, (∀ rest, pieces (Json.escape char ++ rest) =
        (piece :: (pieces rest).1, (pieces rest).2)) ∧
      ∀ ending found, assemble ending none (piece :: found) =
        (assemble ending none found).map (char :: ·) := by
  have plain : ∀ ending found, assemble ending none (.char char :: found) =
      (assemble ending none found).map (char :: ·) := by
    intro ending found
    rw [assemble]
    cases assemble ending none found <;> rfl
  rw [Json.escape]
  split_ifs with quote backslash backspace formFeed lineFeed carriageReturn tab control
  · exact ⟨.char char, fun rest => by subst quote; rfl, plain⟩
  · exact ⟨.char char, fun rest => by subst backslash; rfl, plain⟩
  · exact ⟨.char char, fun rest => by subst backspace; rfl, plain⟩
  · exact ⟨.char char, fun rest => by subst formFeed; rfl, plain⟩
  · exact ⟨.char char, fun rest => by subst lineFeed; rfl, plain⟩
  · exact ⟨.char char, fun rest => by subst carriageReturn; rfl, plain⟩
  · exact ⟨.char char, fun rest => by subst tab; rfl, plain⟩
  · refine ⟨.unit char.toNat, fun rest => ?_, fun ending found => ?_⟩
    · show pieces ('\\' :: 'u' :: '0' :: '0' :: Json.hexDigit (char.toNat / 16) ::
        Json.hexDigit (char.toNat % 16) :: rest) = _
      rw [pieces, unit?_hexDigits control]
    · rw [assemble, if_neg (by omega), if_neg (by omega), Char.ofNat_toNat]
      cases assemble ending none found <;> rfl
  · refine ⟨.char char, fun rest => ?_, plain⟩
    show pieces (char :: rest) = _
    rw [pieces.eq_7 char rest quote (fun _ _ _ _ _ same => absurd same backslash)
      (fun _ same => absurd same backslash) (fun same => absurd same backslash)
      fun _ _ same => absurd same backslash, if_neg control]

theorem exists_pieces (text rest : List Char) :
    ∃ found, pieces (text.flatMap Json.escape ++ '"' :: rest) = (found, .closed rest) ∧
      assemble (.closed rest) none found = .ok text := by
  induction text with
  | nil => exact ⟨[], rfl, rfl⟩
  | cons char text inductionHypothesis =>
    obtain ⟨found, cut, assembled⟩ := inductionHypothesis
    obtain ⟨piece, taken, made⟩ := exists_piece char
    refine ⟨piece :: found, ?_, ?_⟩
    · rw [List.flatMap_cons, List.append_assoc, taken, cut]
    · rw [made, assembled]
      rfl

/-- A string is read back, with the text behind it left. -/
theorem readString_quote (text : String) (rest : List Char) :
    readString (text.toList.flatMap Json.escape ++ '"' :: rest) = .closed (.ok text) rest := by
  obtain ⟨found, cut, assembled⟩ := exists_pieces text.toList rest
  rw [readString, cut]
  show StringRead.closed ((assemble (.closed rest) none found).map String.ofList) rest = _
  rw [assembled]
  exact congrArg (fun content => StringRead.closed (.ok content) rest) String.ofList_toList

end JsonText

/-! ### Numerals -/

/-- A text with which no numeral goes on: it is over, or a separator, a bracket or a space is
next. -/
def Apart (rest : List Char) : Prop :=
  ∀ char ∈ rest.head?, char ∈ [',', ']', '\x7d', ' ', '\n', '\t', '\r']

namespace Apart

variable {rest : List Char}

/-- What comes next is no character of a numeral. -/
theorem cases (apart : Apart rest) :
    rest = [] ∨ ∃ char more, rest = char :: more ∧ char.isDigit = false ∧ char ≠ '.' ∧
      ¬ (char = 'e' ∨ char = 'E') := by
  cases rest with
  | nil => exact Or.inl rfl
  | cons char more =>
    have separators : ∀ char ∈ [',', ']', '\x7d', ' ', '\n', '\t', '\r'],
        char.isDigit = false ∧ char ≠ '.' ∧ ¬ (char = 'e' ∨ char = 'E') := by simp
    exact Or.inr ⟨char, more, rfl, separators char (apart char rfl)⟩

end Apart

/-- The digit that a character stands for. -/
def Numeral.digit (char : Char) : Nat := char.toNat - '0'.toNat

namespace Numeral

variable {rest : List Char}

theorem digits_append {text : List Char} (digital : ∀ char ∈ text, char.isDigit = true)
    (apart : Apart rest) : digits (text ++ rest) = (text.map digit, rest) := by
  induction text with
  | nil =>
    rcases apart.cases with ended | ⟨char, more, next, other, -⟩
    · rw [ended]
      rfl
    · rw [next, List.nil_append, digits, if_neg (ne_true_of_eq_false other), List.map_nil]
  | cons char text inductionHypothesis =>
    obtain ⟨first, others⟩ := List.forall_mem_cons.mp digital
    rw [List.cons_append, digits, if_pos first, inductionHypothesis others, List.map_cons]
    rfl

theorem scanFraction_apart (apart : Apart rest) : scanFraction rest = .ok ([], rest) := by
  rcases apart.cases with ended | ⟨char, more, next, -, noPoint, -⟩
  · rw [ended]
    rfl
  · rw [next, scanFraction]
    exact fun _ same => noPoint (List.cons.inj same).1

theorem scanExponent_apart (apart : Apart rest) : scanExponent rest = .ok (none, rest) := by
  rcases apart.cases with ended | ⟨char, more, next, -, -, noMark⟩
  · rw [ended]
    rfl
  · rw [next]
    exact if_neg noMark

/-- The number that digits add up to behind others. -/
def sum (before : Nat) (digits : List Nat) : Nat :=
  digits.foldl (fun value digit => value * 10 + digit) before

theorem le_sum (before : Nat) (digits : List Nat) : before ≤ sum before digits := by
  induction digits generalizing before with
  | nil => exact le_rfl
  | cons first others inductionHypothesis =>
    have grown : before ≤ before * 10 + first := by omega
    exact le_trans grown (inductionHypothesis _)

theorem absorb_eq {before : Nat} {digits : List Nat} (fits : sum before digits < Word.count 64) :
    absorb before digits = (sum before digits, []) := by
  induction digits generalizing before with
  | nil => rfl
  | cons first others inductionHypothesis =>
    rw [absorb, if_pos (lt_of_le_of_lt (le_sum _ others) fits)]
    exact inductionHypothesis fits

theorem sum_toDigits (value : Nat) : sum 0 ((Nat.toDigits 10 value).map digit) = value := by
  have same : sum 0 ((Nat.toDigits 10 value).map digit) =
      Nat.ofDigitChars 10 (Nat.toDigits 10 value) 0 := by
    rw [sum, List.foldl_map, Nat.ofDigitChars]
    refine congrArg (fun step => List.foldl step 0 (Nat.toDigits 10 value)) ?_
    funext before char
    rw [Nat.mul_comm, digit]
  rw [same, Nat.ofDigitChars_ten_toDigits]

theorem exists_toDigits (value : Nat) :
    ∃ first others, Nat.toDigits 10 value = first :: others ∧ first.isDigit = true := by
  cases written : Nat.toDigits 10 value with
  | nil => exact absurd written Nat.toDigits_ne_nil
  | cons first others =>
    have member : first ∈ Nat.toDigits 10 value := written ▸ List.mem_cons_self
    exact ⟨first, others, rfl, Nat.isDigit_of_mem_toDigits (by decide) (by decide) member⟩

/-- Only the number zero begins with the digit zero. -/
theorem head?_toDigits {value : Nat} (positive : 0 < value) :
    ((Nat.toDigits 10 value).map digit).head? ≠ some 0 := by
  induction value using Nat.strongRecOn with
  | ind value inductionHypothesis =>
    rcases Nat.lt_or_ge value 10 with small | large
    · have single : ∀ value < 10, 0 < value → ([value.digitChar].map digit).head? ≠ some 0 := by
        decide
      rw [Nat.toDigits_of_lt_base small]
      exact single value small positive
    · have known := inductionHypothesis (value / 10) (by omega) (by omega)
      rw [Nat.toDigits_of_base_le (by decide) large, List.map_append, List.head?_append_of_ne_nil]
      · exact known
      · exact fun none => Nat.toDigits_ne_nil (List.map_eq_nil_iff.mp none)

theorem scanUnsigned_toDigits (negative : Bool) (value : Nat) (apart : Apart rest) :
    scanUnsigned negative (Nat.toDigits 10 value ++ rest) =
      .ok (⟨negative, (Nat.toDigits 10 value).map digit, [], none⟩, rest) := by
  have digital : ∀ char ∈ Nat.toDigits 10 value, char.isDigit = true := fun char member =>
    Nat.isDigit_of_mem_toDigits (by decide) (by decide) member
  have complete : ∀ numeral, (scanFraction rest >>= fun fraction =>
      scanExponent fraction.2 >>= fun exponent =>
        .ok (Numeral.mk negative numeral fraction.1 exponent.1, exponent.2)) =
          Except.ok (Numeral.mk negative numeral [] none, rest) := by
    intro numeral
    refine bind_eq_ok_iff.mpr ⟨_, scanFraction_apart apart, ?_⟩
    exact bind_eq_ok_iff.mpr ⟨_, scanExponent_apart apart, rfl⟩
  rw [scanUnsigned, digits_append digital apart]
  rcases Nat.eq_zero_or_pos value with rfl | positive
  · exact complete [0]
  · have leading := head?_toDigits positive
    cases written : (Nat.toDigits 10 value).map digit with
    | nil => exact absurd (List.map_eq_nil_iff.mp written) Nat.toDigits_ne_nil
    | cons first others =>
      rw [written] at leading
      cases first with
      | zero => exact absurd rfl leading
      | succ first => exact complete (first.succ :: others)

/-- The number of the digits of an integer of 64 bits, with the integer's sign. -/
theorem value?_toDigits {value : Int} (whole : (Number.integer value).Whole) :
    (Numeral.mk (decide (value < 0)) ((Nat.toDigits 10 value.natAbs).map digit) [] none).value? =
      some (.integer value) := by
  obtain ⟨least, below⟩ := whole
  have narrower : Word.count 63 < Word.count 64 := by decide
  have fits : sum 0 ((Nat.toDigits 10 value.natAbs).map digit) < Word.count 64 := by
    rw [sum_toDigits]
    omega
  rw [value?, absorb_eq fits, sum_toDigits]
  rcases lt_or_ge value 0 with negative | positive
  · rw [decide_eq_true negative]
    show (if 0 < value.natAbs ∧ value.natAbs ≤ Word.count 63 then
      some (Number.integer (-value.natAbs)) else _) = _
    rw [if_pos (by omega), Int.ofNat_natAbs_of_nonpos (le_of_lt negative), Int.neg_neg]
  · rw [decide_eq_false (not_lt.mpr positive)]
    show some (Number.integer value.natAbs) = _
    rw [Int.natAbs_of_nonneg positive]

end Numeral

/-- An integer begins with a sign or a digit. -/
theorem exists_integerText (value : Int) :
    ∃ first others, Number.integerText value = first :: others ∧
      (first = '-' ∨ first.isDigit = true) := by
  rcases lt_or_ge value 0 with negative | positive
  · exact ⟨'-', _, by rw [Number.integerText, if_pos negative, List.singleton_append], Or.inl rfl⟩
  · obtain ⟨first, others, written, digital⟩ := Numeral.exists_toDigits value.natAbs
    refine ⟨first, others, ?_, Or.inr digital⟩
    rw [Number.integerText, if_neg (not_lt.mpr positive), List.nil_append, written]

/-- An integer of 64 bits is read back, with the text behind it left. -/
theorem JsonText.readNumber_integerText {value : Int} (whole : (Number.integer value).Whole)
    {rest : List Char} (apart : Apart rest) :
    readNumber (Number.integerText value ++ rest) = (.number (.integer value), rest) := by
  have scanned : Numeral.scan (Number.integerText value ++ rest) =
      .ok (⟨decide (value < 0), (Nat.toDigits 10 value.natAbs).map Numeral.digit, [], none⟩,
        rest) := by
    rcases lt_or_ge value 0 with negative | positive
    · rw [Number.integerText, if_pos negative, decide_eq_true negative]
      exact Numeral.scanUnsigned_toDigits true value.natAbs apart
    · obtain ⟨first, others, written, digital⟩ := Numeral.exists_toDigits value.natAbs
      have unsigned : first ≠ '-' := fun same => absurd (same ▸ digital) (by decide)
      rw [Number.integerText, if_neg (not_lt.mpr positive), decide_eq_false (not_lt.mpr positive),
        ← Numeral.scanUnsigned_toDigits false value.natAbs apart, List.nil_append, written,
        List.cons_append, Numeral.scan]
      exact fun _ same => unsigned (List.cons.inj same).1
  rw [readNumber, scanned]
  dsimp only
  rw [Numeral.value?_toDigits whole]

end FleetView
