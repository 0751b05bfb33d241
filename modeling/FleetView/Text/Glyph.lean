/-
How wide one character is on a terminal. Most take one column; marks and characters
that are not shown take none, and the wide ones take two.
-/

import FleetView.Unicode.Mark
import FleetView.Unicode.Wide

namespace FleetView.Text

open Unicode (ranges inRanges)

/-- What takes no column besides marks: letters that complete a syllable, signs that
enclose what follows them, and characters that are not shown. -/
def widthless : List Unicode.Range :=
  ranges [
    "ad 605 61c 70f 890-891 8e2 d4e 1160-11ff 180e 200b 200d-200f 202a-202e 2060-206f 3164 a8fa",
    "d7b0-d7c6 d7cb-d7fb feff ffa0 fff0-fff8 111c2-111c3 113d1 1193f 11941 11a3a 11a84-11a89",
    "11d46 11f02 1bca0-1bca3 1d173-1d17a e0000-e001f e0080-e00ff e01f0-e0fff"]

/-- The marks that take a column all the same. -/
def standing : List Unicode.Range := ranges ["2d7f ff9e-ff9f"]

/-- Whether a character takes no column. -/
def isWidthless (char : Char) : Bool :=
  (Unicode.isExtender char && !inRanges standing char) || inRanges widthless char

/-- The columns that a character takes by itself. Two letters of the Khmer script take
as many as what they are short for. -/
def columns (char : Char) : Nat :=
  if char.toNat ≤ 0xA0 then 1
  else if char.toNat = 0x17A4 then 2
  else if char.toNat = 0x17D8 then 3
  else if isWidthless char then 0
  else if Unicode.isWide char then 2
  else 1

/-- The characters that are not shown and that letters join across. -/
def joinedAcross : List Unicode.Range :=
  ranges [
    "ad 61c 70f 200b 200e-200f 202a-202e 2060-2064 206a-206f feff 1bca0-1bca3 1d173-1d17a e0001",
    "e0020-e007f"]

/-- Whether a character takes no column and parts no letters. -/
def isPassedOver (char : Char) : Bool :=
  columns char == 0 && (Unicode.isNonspacing char || inRanges joinedAcross char)

end FleetView.Text
