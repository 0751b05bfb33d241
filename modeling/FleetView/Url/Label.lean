/-
The parts of a name between its dots. A part may use characters beyond ASCII; it
then has a second form with ASCII characters only, under a mark of its own, and the
two forms stand for the same part. This file says which parts make sense: marks need
something to stand on, joining characters something to join, and where a name runs
from right to left, every part of it must run in one direction.
-/

import FleetView.Url.Folding
import FleetView.Url.Percent
import FleetView.Url.Punycode
import FleetView.Unicode.Composition
import FleetView.Unicode.Direction
import FleetView.Unicode.Joining

namespace FleetView.Host

open Unicode (Direction direction)

/-! ### Both forms of a part -/

/-- A part of a name. -/
structure Label where
  /-- With ASCII characters only. -/
  written : List Char
  /-- With the characters that are meant. -/
  meant : List Char
  deriving DecidableEq, Repr

/-- Characters that no name of a host has. -/
def denied (char : Char) : Bool :=
  Percent.controls char || " #%/:<>?@[\\]^|".toList.contains char

/-- Whether a text has ASCII characters only. -/
def isAscii (text : List Char) : Bool := text.all (·.toNat < 0x80)

/-- What the form with ASCII characters starts with when it stands for others. -/
def asciiMark : List Char := "xn--".toList

/-- The part whose form with ASCII characters has this text behind its mark. The
text must be readable, and what it stands for must already be folded and composed. -/
def ofAscii? (text : List Char) : Option Label :=
  if !isAscii text || text.getLast?.all (· == '-') || 2000 < text.length then none
  else
    (Punycode.decode? text).bind fun meant =>
      if meant.all isFolded && !meant.any denied && Unicode.compose meant == meant then
        some ⟨asciiMark ++ text, meant⟩
      else none

/-- Reads a part that is folded and composed. -/
def label? (part : List Char) : Option Label :=
  if asciiMark.isPrefixOf part then ofAscii? (part.drop asciiMark.length)
  else if isAscii part then some ⟨part, part⟩
  else if 1000 < part.length then none
  else some ⟨asciiMark ++ Punycode.encode part, part⟩

/-! ### Which parts make sense -/

/-- Whether each character that asks for a connection stands where it can make one;
`before` is what has been read, held from its end. One of the two only follows a mark
that ends a consonant; the other also parts two letters that would join. -/
def joinsWell (before : List Char) : List Char → Bool
  | [] => true
  | char :: rest =>
    let bound := before.head?.any Unicode.isVirama
    let parts :=
      (before.find? fun char => !Unicode.isJoinedAcross char).any Unicode.joinsNext &&
        (rest.find? fun char => !Unicode.isJoinedAcross char).any Unicode.joinsPrevious
    let fine :=
      if char.toNat = 0x200D then bound else if char.toNat = 0x200C then bound || parts else true
    fine && joinsWell (char :: before) rest

/-- Whether a name with this character runs from right to left somewhere. -/
def turns (char : Char) : Bool :=
  match direction char with
  | .right | .rightDigit => true
  | _ => false

/-- Whether a part runs in one direction: the first character gives it, the others
must go with it, and so must the last one that is no mark. -/
def runsOneWay (part : List Char) : Bool :=
  let found := part.map direction
  let last := found.reverse.find? (· != .mark)
  match found with
  | [] => true
  | .left :: _ =>
    (found.all fun one => one != .right && one != .rightDigit) &&
      last.any fun one => one == .left || one == .digit
  | .right :: _ =>
    found.all (· != .left) && !(found.contains .digit && found.contains .rightDigit) &&
      last.any fun one => one == .right || one == .digit || one == .rightDigit
  | _ => false

/-- Whether a part makes sense in a name, which may run from right to left. -/
def Label.isSound (turned : Bool) (label : Label) : Bool :=
  !label.meant.head?.any Unicode.isMark && joinsWell [] label.meant &&
    (!turned || runsOneWay label.meant)

/-! ### Names -/

/-- The form of a name with ASCII characters only. -/
def domain? (name : List Char) : Option (List Char) := do
  let folded := Unicode.compose (← name.mapM fold?).flatten
  if folded.any denied then none
  else
    let labels ← (Text.splitOn '.' folded).mapM label?
    let turned := labels.any fun label => label.meant.any turns
    if labels.all (·.isSound turned) then
      some ((labels.map Label.written).intersperse ['.']).flatten
    else none

end FleetView.Host
