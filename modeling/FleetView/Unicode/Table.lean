/-
Tables of characters. A property of characters is written down as the ranges of
codes that have it, and a replacement of characters as ranges together with what
they become. The tables are texts, so that they can be read beside the lists they
come from: codes are hexadecimal, and spaces part the entries.
-/

import FleetView.Text.Blank

namespace FleetView.Unicode

/-! ### Codes -/

/-- The value of a hexadecimal digit in lower case. -/
def digit (char : Char) : Nat :=
  if char.isDigit then char.toNat - '0'.toNat else char.toNat - 'a'.toNat + 10

/-- The number that hexadecimal digits spell. -/
def number (text : List Char) : Nat := text.foldl (fun value char => value * 16 + digit char) 0

/-- The entries of a table. -/
def entries (lines : List String) : List (List Char) :=
  lines.flatMap fun line => Text.splitOn ' ' line.toList

/-! ### Properties -/

/-- A range of codes, the last one included. -/
structure Range where
  first : Nat
  last : Nat
  deriving DecidableEq, Repr

namespace Range

/-- Reads a range: two codes with a dash between them, or a code alone. -/
def read (text : List Char) : Range :=
  match Text.splitOn '-' text with
  | [first, last] => ⟨number first, number last⟩
  | _ => ⟨number text, number text⟩

/-- Whether a code lies in a range. -/
def contains (range : Range) (code : Nat) : Bool := range.first ≤ code && code ≤ range.last

end Range

/-- Reads ranges. -/
def ranges (lines : List String) : List Range := (entries lines).map Range.read

/-- Whether a character lies in one of several ranges. -/
def inRanges (ranges : List Range) (char : Char) : Bool :=
  ranges.any (·.contains char.toNat)

/-! ### Replacements -/

/-- What the codes of a range become. With one image it is for the first code, and
moves along with the codes; with several there is one for each code. Only every
so many codes belong to the range. -/
structure Replacement where
  range : Range
  step : Nat
  images : List (List Nat)
  deriving DecidableEq, Repr

namespace Replacement

/-- Reads a replacement: a range, a slash and a step if it is not one, and behind a
mark the images with dots between them, each of them codes with commas. -/
def read (text : List Char) : Replacement :=
  let source := text.takeWhile (· ≠ '>')
  let images := Text.splitOn '.' (text.drop (source.length + 1))
  let images := images.map fun image => (Text.splitOn ',' image).map number
  let range := Range.read (source.takeWhile (· ≠ '/'))
  let step := number ((source.dropWhile (· ≠ '/')).drop 1)
  if images.length < 2 then ⟨range, max 1 step, images⟩
  else ⟨⟨range.first, range.first + images.length - 1⟩, 1, images⟩

/-- What a code becomes. -/
def image? (replacement : Replacement) (code : Nat) : Option (List Nat) :=
  let offset := code - replacement.range.first
  if replacement.range.contains code ∧ offset % replacement.step = 0 then
    match replacement.images with
    | [[image]] => some [image + offset]
    | images => images[offset]?
  else none

/-- All codes that are replaced, with their images. -/
def pairs (replacement : Replacement) : List (Nat × List Nat) :=
  (List.range (replacement.range.last - replacement.range.first + 1)).filterMap fun offset =>
    (replacement.image? (replacement.range.first + offset)).map fun image =>
      (replacement.range.first + offset, image)

end Replacement

/-- Reads replacements. -/
def replacements (lines : List String) : List Replacement := (entries lines).map Replacement.read

/-- What a character becomes; `none` when no entry is about it. -/
def replace? (replacements : List Replacement) (char : Char) : Option (List Char) :=
  (replacements.findSome? (·.image? char.toNat)).map fun image => image.map Char.ofNat

end FleetView.Unicode
