/-
Characters that show nothing of their own. Whether a code stands for a character
is part of the question, since no screen shows one that does not.
-/

import FleetView.Unicode.Assigned
import FleetView.Unicode.Mark

namespace FleetView.Unicode

/-- The characters that only control how others are shown. -/
def formats : List Range :=
  ranges [
    "ad 600-605 61c 6dd 70f 890-891 8e2 180e 200b-200f 202a-202e 2060-2064 2066-206f feff",
    "fff9-fffb 110bd 110cd 13430-1343f 1bca0-1bca3 1d173-1d17a e0001 e0020-e007f"]

/-- The characters that everyone may give a meaning. -/
def privates : List Range :=
  ranges [
    "e000-f8ff f0000-ffffd 100000-10fffd"]

/-- The letters that stand for a missing letter. -/
def fillers : List Range :=
  ranges [
    "115f-1160 3164 ffa0"]

/-- Whether a character is a control character. -/
def isControl (char : Char) : Bool :=
  char.toNat < 0x20 || (0x7F ≤ char.toNat && char.toNat < 0xA0)

/-- Whether a character shows nothing of its own. The space does. -/
def isUnseen (char : Char) : Bool :=
  isControl char || (Text.isBlank char && char != ' ') || inRanges formats char ||
    inRanges privates char || inRanges fillers char || !isAssigned char

end FleetView.Unicode
