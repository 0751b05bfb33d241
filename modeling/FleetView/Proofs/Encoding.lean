/-
This file proves that what is written in UTF-8 and percent-encoded can be read back.
A character is taken up byte by byte: the first byte says how many follow and keeps
out codes that have a shorter form or stand for no character, and each further byte
brings six more bits. Encoding hides these bytes behind ASCII characters, and as it
hides the percent sign too, nothing else can be taken for a hidden byte.
-/

import Mathlib
import FleetView.Url.Parser

namespace FleetView

namespace Text.Utf8

variable {byte : UInt8} {rest : List UInt8}

/-! ### First bytes -/

theorem scan_of_one (small : byte.toNat < 0x80) :
    scan (byte :: rest) none = some (Char.ofNat byte.toNat) :: scan rest none := by
  rw [scan, step, step.begun, start, if_pos small]
  rfl

theorem scan_of_opens {pending : Pending} (opens : start byte.toNat = .opens pending) :
    scan (byte :: rest) none = scan rest (some pending) := by
  rw [scan, step, step.begun, opens]
  rfl

theorem scan_of_two {lead : Nat} (first : byte.toNat = lead + 0xC0) (least : 2 ≤ lead)
    (most : lead < 0x20) : scan (byte :: rest) none = scan rest (some ⟨lead, 1, 0x80, 0xBF⟩) := by
  refine scan_of_opens ?_
  rw [first, start, if_neg (by omega), if_neg (by omega), if_pos (by omega), Nat.add_sub_cancel]

/-- Of the characters of three bytes, the least ones have a shorter form and some stand for
nothing. -/
theorem scan_of_three {lead : Nat} (first : byte.toNat = lead + 0xE0) (most : lead < 0x10) :
    scan (byte :: rest) none =
      scan rest (some ⟨lead, 2, if lead = 0 then 0xA0 else 0x80,
        if lead = 0xD then 0x9F else 0xBF⟩) := by
  refine scan_of_opens ?_
  rw [first, start, if_neg (by omega), if_neg (by omega), if_neg (by omega)]
  by_cases shorter : lead = 0
  · rw [shorter]
    rfl
  · by_cases nothing : lead = 0xD
    · rw [nothing]
      rfl
    · rw [if_neg (by omega), if_neg (by omega), if_pos (by omega), if_neg shorter, if_neg nothing,
        Nat.add_sub_cancel]

/-- Of the characters of four bytes, the least ones have a shorter form and the greatest ones do
not exist. -/
theorem scan_of_four {lead : Nat} (first : byte.toNat = lead + 0xF0) (most : lead ≤ 4) :
    scan (byte :: rest) none =
      scan rest (some ⟨lead, 3, if lead = 0 then 0x90 else 0x80,
        if lead = 4 then 0x8F else 0xBF⟩) := by
  refine scan_of_opens ?_
  rw [first]
  match lead, most with
  | 0, _ | 1, _ | 2, _ | 3, _ | 4, _ => rfl

/-! ### Further bytes -/

variable {code bits low high : Nat}

theorem scan_more {owed : Nat} (holds : byte.toNat = bits + 0x80)
    (within : low ≤ bits + 0x80 ∧ bits + 0x80 ≤ high) :
    scan (byte :: rest) (some ⟨code, owed + 2, low, high⟩) =
      scan rest (some ⟨code * 64 + bits, owed + 1, 0x80, 0xBF⟩) := by
  rw [scan, step, holds, if_pos within, if_neg (by dsimp only; omega), Nat.add_sub_cancel]
  rfl

theorem scan_last (holds : byte.toNat = bits + 0x80)
    (within : low ≤ bits + 0x80 ∧ bits + 0x80 ≤ high) :
    scan (byte :: rest) (some ⟨code, 1, low, high⟩) =
      some (Char.ofNat (code * 64 + bits)) :: scan rest none := by
  rw [scan, step, holds, if_pos within, if_pos le_rfl, Nat.add_sub_cancel]
  rfl

/-! ### Whole characters -/

/-- The bytes of a character are taken up as this character. -/
theorem scan_utf8EncodeChar (char : Char) (rest : List UInt8) :
    scan (String.utf8EncodeChar char ++ rest) none = some char :: scan rest none := by
  obtain ⟨code, same⟩ : ∃ code, char.val.toNat = code := ⟨_, rfl⟩
  have valid : code < 0xD800 ∨ 0xDFFF < code ∧ code < 0x110000 := same ▸ char.valid
  have back : Char.ofNat code = char := by
    rw [← same]
    exact Char.ofNat_toNat char
  have byteOf : ∀ value, value < 0x100 → (UInt8.ofNat value).toNat = value :=
    fun _ => UInt8.toNat_ofNat_of_lt'
  have follower : ∀ bits, (UInt8.ofNat (bits % 64 + 128)).toNat = bits % 64 + 0x80 :=
    fun bits => byteOf _ (by omega)
  unfold String.utf8EncodeChar
  rw [same]
  dsimp only
  -- The cases are the four lengths of a character.
  by_cases one : code ≤ 127
  · have first := byteOf code (by omega)
    rw [if_pos one, List.singleton_append, scan_of_one (by omega), first, back]
  rw [if_neg one]
  by_cases two : code ≤ 2047
  · have first := byteOf (code / 64 % 32 + 192) (by omega)
    have joined : code / 64 % 32 * 64 + code % 64 = code := by omega
    rw [if_pos two, List.cons_append, List.singleton_append,
      scan_of_two first (by omega) (by omega), scan_last (follower code) (by omega), joined, back]
  rw [if_neg two]
  by_cases three : code ≤ 65535
  · have first := byteOf (code / 4096 % 16 + 224) (by omega)
    have joined : (code / 4096 % 16 * 64 + code / 64 % 64) * 64 + code % 64 = code := by omega
    rw [if_pos three, List.cons_append, List.cons_append, List.singleton_append,
      scan_of_three first (by omega), scan_more (follower (code / 64)) (by split_ifs <;> omega),
      scan_last (follower code) (by omega), joined, back]
  · have first := byteOf (code / 262144 % 8 + 240) (by omega)
    have joined : ((code / 262144 % 8 * 64 + code / 4096 % 64) * 64 + code / 64 % 64) * 64 +
        code % 64 = code := by omega
    rw [if_neg three, List.cons_append, List.cons_append, List.cons_append, List.singleton_append,
      scan_of_four first (by omega), scan_more (follower (code / 4096)) (by split_ifs <;> omega),
      scan_more (follower (code / 64)) (by omega), scan_last (follower code) (by omega),
      joined, back]

theorem scan_flatMap (chars : List Char) :
    scan (chars.flatMap String.utf8EncodeChar) none = chars.map some := by
  induction chars with
  | nil => rfl
  | cons char rest inductionHypothesis =>
    rw [List.flatMap_cons, scan_utf8EncodeChar, inductionHypothesis, List.map_cons]

/-- The bytes of a text stand for this text. -/
theorem decode?_flatMap (chars : List Char) :
    decode? (chars.flatMap String.utf8EncodeChar) = some (String.ofList chars) := by
  have whole : (chars.map some).mapM id = some chars := by
    rw [List.mapM_map]
    exact List.mapM_pure.trans (congrArg some (List.map_id chars))
  rw [decode?, scan_flatMap, whole, Option.map_some]

/-- Nothing of a text is lost by being forgiving. -/
theorem decodeLossy_encode (text : String) : decodeLossy (encode text) = text := by
  rw [decodeLossy, encode, scan_flatMap, List.map_map]
  exact (congrArg String.ofList (List.map_id text.toList)).trans String.ofList_toList

end Text.Utf8

namespace Percent

/-! ### Percent-encoding -/

variable {set : Char → Bool}

theorem hexValue?_hexDigit {value : Nat} (digit : value < 16) :
    JsonText.hexValue? (hexDigit value) = some value := by
  interval_cases value <;> rfl

theorem decode_encodeByte (byte : UInt8) (rest : List Char) :
    decode (encodeByte byte ++ rest) = byte :: decode rest := by
  have small : byte.toNat < 256 := byte.toNat_lt
  have joined : byte.toNat / 16 * 16 + byte.toNat % 16 = byte.toNat := by omega
  show decode ('%' :: hexDigit (byte.toNat / 16) :: hexDigit (byte.toNat % 16) :: rest) = _
  rw [decode, hexValue?_hexDigit (by omega), hexValue?_hexDigit (by omega)]
  dsimp only
  rw [joined, UInt8.ofNat_toNat]

theorem decode_flatMap_encodeByte (bytes : List UInt8) (rest : List Char) :
    decode (bytes.flatMap encodeByte ++ rest) = bytes ++ decode rest := by
  induction bytes with
  | nil => rfl
  | cons byte more inductionHypothesis =>
    rw [List.flatMap_cons, List.append_assoc, decode_encodeByte, inductionHypothesis,
      List.cons_append]

/-- Only a percent sign starts an encoded byte. -/
theorem decode_cons {char : Char} (plain : char ≠ '%') (rest : List Char) :
    decode (char :: rest) = String.utf8EncodeChar char ++ decode rest := by
  rw [decode]
  exact fun _ _ _ same => absurd same plain

/-- Decoding gives back the bytes of what was encoded, be it hidden or left as it is. -/
theorem decode_encode (hidden : set '%' = true) (text : List Char) :
    decode (encode set text) = text.flatMap String.utf8EncodeChar := by
  induction text with
  | nil => rfl
  | cons char rest inductionHypothesis =>
    rw [encode] at inductionHypothesis ⊢
    rw [List.flatMap_cons, List.flatMap_cons, encodeChar]
    split
    · rw [decode_flatMap_encodeByte, inductionHypothesis]
    · rename_i shown
      have plain : char ≠ '%' := by
        rintro rfl
        rw [hidden] at shown
        exact shown rfl
      rw [List.singleton_append, decode_cons plain, inductionHypothesis]

/-- What is encoded in a text can be read back, where the percent sign is encoded too. -/
theorem decodeText?_encode (hidden : set '%' = true) (text : List Char) :
    decodeText? (String.ofList (encode set text)) = some (String.ofList text) := by
  rw [decodeText?, String.toList_ofList, decode_encode hidden, Text.Utf8.decode?_flatMap]

end Percent

end FleetView
