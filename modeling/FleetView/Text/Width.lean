/-
How wide a text is on a terminal. Characters that are shown as one take the room of
one: letters that join, pictures with their tones and selectors, the two letters of a
flag. The text is therefore measured from its end, and what is known of the text
behind a character decides how the character counts.
-/

import FleetView.Text.Glyph
import FleetView.Unicode.Picture

namespace FleetView.Text

open Unicode (ranges inRanges)

/-! ### The text behind a character -/

/-- What a text starts with, as far as it matters to the character before it. -/
inductive Front where
  | other
  | lineEnd
  /-- A tone of the skin. -/
  | tone
  /-- One letter of a flag. -/
  | flagLetter
  | flagLetters
  | picture
  /-- A picture that is joined with what comes before it. -/
  | joined
  | joinedKeycap
  | joinedFlagLetter
  | joinedFlag
  | joinedFlagAndLetter
  /-- The end of a flag that is spelled out, and how much of it has been read. -/
  | spelledEnd
  | spelledLetters (count : Nat)
  | spelledDigits (count : Nat)
  /-- Vowel signs of the Kirat Rai script. -/
  | signE
  | signAi
  /-- Letters that may join with one before them. Some do so only when they are bound
  to it by a joiner. -/
  | alef
  | lamed (bound : Bool)
  | ya (bound : Bool)
  | yaWithVowel
  | tifinagh (bound : Bool)
  | tifinaghJoined
  | lisuTone
  | orkhonI (bound : Bool)
  | khmer
  deriving DecidableEq, Repr

namespace Front

/-- Whether selectors and joiners leave the letter at the front as it is. -/
def isLetter : Front → Bool
  | .alef | .lamed _ | .ya _ | .yaWithVowel | .tifinagh _ | .tifinaghJoined | .lisuTone
  | .orkhonI _ | .khmer => true
  | _ => false

/-- Whether the front is joined with a picture before it. -/
def isJoined : Front → Bool
  | .joined | .joinedKeycap => true
  | _ => false

/-- The front with a joiner before it. -/
def bind : Front → Front
  | .lamed _ => .lamed true
  | .ya _ => .ya true
  | .tifinagh _ => .tifinagh true
  | .orkhonI _ => .orkhonI true
  | front => front

end Front

/-- What is known of the text behind a character. -/
structure Behind where
  front : Front
  /-- Whether a selector for pictures stands before the front. -/
  pictured : Bool
  /-- Whether a selector for plain text stands before the front. -/
  plain : Bool
  deriving DecidableEq, Repr

namespace Behind

/-- A front without selectors. -/
def of (front : Front) : Behind := ⟨front, false, false⟩

/-- Nothing of interest. -/
def nothing : Behind := .of .other

/-- A selector for pictures comes before the text. -/
def withPictured (behind : Behind) : Behind :=
  if behind.front.isLetter || behind.front.isJoined then { behind with pictured := true }
  else ⟨.other, true, false⟩

/-- A selector for plain text comes before the text. -/
def withPlain (behind : Behind) : Behind :=
  if behind.front.isLetter then { behind with plain := true } else ⟨.other, false, true⟩

/-- The selector for pictures was of no use. -/
def withoutPictured (behind : Behind) : Behind :=
  if behind.front.isLetter then { behind with pictured := false } else nothing

end Behind

/-! ### Characters by themselves -/

/-- The letters of the form alef. -/
def alefs : List Unicode.Range := ranges ["622-623 625 627 671-673 675 773-774 870-882"]

/-- The letters of the form lam. -/
def lams : List Unicode.Range := ranges ["644 6b5-6b8 76a 8a6 8c7"]

/-- The letters of the Khmer script that can stand below another. -/
def khmers : List Unicode.Range :=
  ranges [
    "1780-1782 1784-1787 1789-178c 178e-1793 1795-1798 179b-179d 17a0 17a2 17a7 17ab-17ac 17af"]

/-- The consonants of the Tifinagh script. -/
def tifinaghs : List Unicode.Range := ranges ["2d31-2d65 2d6f"]

/-- What stands between two letters that join without being shown. -/
def betweens : List Unicode.Range := ranges ["34f 17b4-17b5 180b-180d 180f fe00-fe0f e0100-e01ef"]

/-- What a character is to the one before it. -/
def front (char : Char) : Front :=
  if Unicode.isPicture char then if Unicode.isTone char then .tone else .picture
  else if Unicode.isFlagLetter char then .flagLetter
  else if inRanges alefs char then .alef
  else if inRanges khmers char then .khmer
  else if inRanges tifinaghs char then .tifinagh false
  else
    match char.toNat with
    | 0x5DC => .lamed false
    | 0x1A10 => .ya false
    | 0xA4FC | 0xA4FD => .lisuTone
    | 0x10C03 => .orkhonI false
    | 0x16D67 => .signE
    | 0x16D68 => .signAi
    | _ => .other

/-! ### Characters before others -/

/-- What joins characters without being shown. -/
def joiner : Char := Char.ofNat 0x200D

/-- Whether a character is a letter in the spelling of a flag. -/
def isSpellingLetter (char : Char) : Bool := 0xE0061 ≤ char.toNat && char.toNat ≤ 0xE007A

/-- Whether a character is a digit in the spelling of a flag. -/
def isSpellingDigit (char : Char) : Bool := 0xE0030 ≤ char.toNat && char.toNat ≤ 0xE0039

/-- What a flag that is spelled out starts with. -/
def blackFlag : Char := Char.ofNat 0x1F3F4

/-- How a character counts before a front that takes it in, and what the two are
together; `none` when the front does not take it in. -/
def meet (char : Char) : Front → Option (Int × Front)
  | .alef =>
    if inRanges lams char then some (0, .other)
    else if isPassedOver char then some (0, .alef)
    else none
  | .lamed bound => if bound ∧ char.toNat = 0x5D0 then some (0, .other) else none
  | .khmer => if char.toNat = 0x17D2 then some (-1, .other) else none
  | .ya bound => if bound ∧ char.toNat = 0x1A17 then some (0, .yaWithVowel) else none
  | .yaWithVowel => if char.toNat = 0x1A15 then some (0, .other) else none
  | .tifinagh bound =>
    if char.toNat = 0x2D7F then some (1, .tifinaghJoined)
    else if bound && inRanges tifinaghs char then some (0, .other)
    else none
  | .tifinaghJoined => if inRanges tifinaghs char then some (-1, .other) else none
  | .lisuTone => if 0xA4F8 ≤ char.toNat ∧ char.toNat ≤ 0xA4FB then some (0, .other) else none
  | .orkhonI bound => if bound ∧ char.toNat = 0x10C32 then some (0, .other) else none
  | .tone =>
    if Unicode.isToned char then some (0, .picture)
    else if char = joiner then some (0, .joined)
    else none
  | .flagLetter => if Unicode.isFlagLetter char then some (1, .flagLetters) else none
  | .flagLetters =>
    if Unicode.isFlagLetter char then some (1, .flagLetters)
    else if char = joiner then some (0, .joined)
    else none
  | .picture => if char = joiner then some (0, .joined) else none
  | .joined =>
    if char.toNat = 0x20E3 then some (0, .joinedKeycap)
    else if char.toNat = 0xE007F then some (0, .spelledEnd)
    else if Unicode.isFlagLetter char then some (1, .joinedFlagLetter)
    else if Unicode.isTone char then some (0, .tone)
    else if Unicode.isPicture char then some (0, .picture)
    else none
  | .joinedFlagLetter => if Unicode.isFlagLetter char then some (-1, .joinedFlag) else none
  | .joinedFlag =>
    if Unicode.isFlagLetter char then some (3, .joinedFlagAndLetter)
    else if char = joiner then some (0, .joined)
    else none
  | .joinedFlagAndLetter =>
    if Unicode.isFlagLetter char then some (-1, .joinedFlag)
    else if char = joiner then some (0, .joined)
    else none
  | .spelledEnd =>
    if isSpellingLetter char then some (0, .spelledLetters 1)
    else if isSpellingDigit char then some (0, .spelledDigits 1)
    else none
  | .spelledLetters count =>
    if isSpellingLetter char ∧ count < 6 then some (0, .spelledLetters (count + 1))
    else if isSpellingDigit char ∧ count < 5 then some (0, .spelledDigits 1)
    else if char = blackFlag ∧ 3 ≤ count then some (0, .picture)
    else none
  | .spelledDigits count =>
    if isSpellingDigit char ∧ count < 3 then some (0, .spelledDigits (count + 1))
    else if char = blackFlag ∧ 3 ≤ count then some (0, .picture)
    else none
  | .signE =>
    match char.toNat with
    | 0x16D63 | 0x16D69 => some (0, .other)
    | 0x16D67 => some (0, .signAi)
    | 0x16D68 => some (1, .signE)
    | _ => none
  | .signAi => if char.toNat = 0x16D63 then some (0, .other) else none
  | .other | .lineEnd | .joinedKeycap => none

/-- How a character counts before a text without selectors for pictures, and what is
known of both together. -/
def count (char : Char) (behind : Behind) : Int × Behind :=
  if char.toNat ≤ 0xA0 then
    if char = '\n' then (1, .of .lineEnd)
    else if char = '\r' ∧ behind = .of .lineEnd then (0, .nothing)
    else (1, .nothing)
  else if char.toNat = 0xFE0F then (0, behind.withPictured)
  else if char.toNat = 0xFE0E then (0, behind.withPlain)
  else if behind.plain && Unicode.hasPlainForm char then (1, .nothing)
  else
    let reached := behind.front
    let crossed := reached.isLetter && reached != .alef
    if crossed && char == joiner then (0, .of reached.bind)
    else if crossed && inRanges betweens char then (0, .of reached)
    else
      match meet char reached with
      | some (counted, front) => (counted, .of front)
      | none => (columns char, .of (front char))

/-- How a character counts before a text. -/
def measure (char : Char) (behind : Behind) : Int × Behind :=
  if behind.pictured then
    if Unicode.hasPictureForm char then
      (if behind.front.isJoined then 0 else 2, .of .picture)
    else count char behind.withoutPictured
  else count char behind

/-- The columns that a text takes. -/
def width (chars : List Char) : Nat :=
  let (total, _) := chars.foldr (fun char (total, behind) =>
    let (counted, behind) := measure char behind
    (total + counted, behind)) ((0 : Int), Behind.nothing)
  total.toNat

end FleetView.Text
