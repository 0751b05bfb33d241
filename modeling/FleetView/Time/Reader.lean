/-
Reading a point in time from text. The form is the usual one of the internet
with some latitude: blanks may stand before numbers and separators, a space may
stand for the letter between date and time, and the zone may be an offset, the
letter Z or the word UTC.
-/

import FleetView.Time.Instant
import FleetView.Text.Blank
import FleetView.Text.Utf8
import FleetView.Word

namespace FleetView

/-- Why a text is no point in time. -/
inductive TimeFlaw where
  | tooShort
  | invalid
  | outOfRange
  | tooLong
  | impossible
  deriving DecidableEq, Repr

/-- The wording of a flaw. -/
def TimeFlaw.message : TimeFlaw → String
  | .tooShort => "premature end of input"
  | .invalid => "input contains invalid characters"
  | .outOfRange => "input is out of range"
  | .tooLong => "trailing input"
  | .impossible => "no possible date and time matching input"

namespace Instant

/-- Drops blanks at the front. -/
def skipBlanks (text : List Char) : List Char := text.dropWhile Text.isBlank

/-- Reads digits, at most `limit` of them where there is a limit. -/
def readDigits (limit : Option Nat) (taken : Nat) (value : Nat) : List Char → Except TimeFlaw (Nat × List Char)
  | [] => if taken = 0 then .error .tooShort else .ok (value, [])
  | char :: rest =>
    if limit = some taken then .ok (value, char :: rest)
    else if char.isDigit then
      let value := value * 10 + (char.toNat - '0'.toNat)
      if value < Word.count 63 then readDigits limit (taken + 1) value rest else .error .outOfRange
    else if taken = 0 then .error .invalid
    else .ok (value, char :: rest)

/-- Reads a number of at most two digits that lies between two bounds. -/
def readPart (low high : Nat) (text : List Char) : Except TimeFlaw (Nat × List Char) := do
  let (value, rest) ← readDigits (some 2) 0 0 (skipBlanks text)
  if low ≤ value ∧ value ≤ high then .ok (value, rest) else .error .outOfRange

/-- Reads a year. With a sign it may have any number of digits. -/
def readYear (text : List Char) : Except TimeFlaw (Int × List Char) := do
  let (value, rest) : Int × List Char ←
    match skipBlanks text with
    | '-' :: rest => (readDigits none 0 0 rest).map fun (value, rest) => (-(value : Int), rest)
    | '+' :: rest => (readDigits none 0 0 rest).map fun (value, rest) => ((value : Int), rest)
    | rest => (readDigits (some 4) 0 0 rest).map fun (value, rest) => ((value : Int), rest)
  if Word.holds 32 value then .ok (value, rest) else .error .outOfRange

/-- Reads a separator, with blanks before it. -/
def readMark (mark : Char) (text : List Char) : Except TimeFlaw (List Char) :=
  match skipBlanks text with
  | [] => .error .tooShort
  | char :: rest => if char = mark then .ok rest else .error .invalid

/-- Reads the mark between date and time. -/
def readMiddle : List Char → Except TimeFlaw (List Char)
  | [] => .error .tooShort
  | char :: rest =>
    if char = 'T' ∨ char = 't' ∨ char = ' ' then .ok rest else .error .invalid

/-- Reads a fraction of a second in nanoseconds; digits past the ninth count for
nothing. -/
def readFraction : List Char → Except TimeFlaw (Nat × List Char)
  | '.' :: rest => do
    let (value, left) ← readDigits (some 9) 0 0 rest
    .ok (value * Nat.pow 10 (9 - (rest.length - left.length)), left.dropWhile Char.isDigit)
  | rest => .ok (0, rest)

/-- Takes the two characters of hours or minutes in an offset. -/
def readPair (text : List Char) : Except TimeFlaw (Char × Char × List Char) :=
  match text with
  | first :: second :: rest => .ok (first, second, rest)
  | short => if Text.Utf8.length short < 2 then .error .tooShort else .error .invalid

/-- Reads the offset after its sign, in seconds. -/
def readOffset (text : List Char) : Except TimeFlaw (Int × List Char) := do
  let (a, b, rest) ← readPair text
  if !(a.isDigit && b.isDigit) then .error .invalid
  else
    let hours := (a.toNat - '0'.toNat) * 10 + (b.toNat - '0'.toNat)
    let rest := rest.dropWhile fun char => char == ':' || Text.isBlank char
    let (c, d, rest) ← readPair rest
    if !(c.isDigit && d.isDigit) then .error .invalid
    else if '6' ≤ c then .error .outOfRange
    else
      let minutes := (c.toNat - '0'.toNat) * 10 + (d.toNat - '0'.toNat)
      .ok (hours * 3600 + minutes * 60, rest)

/-- Reads the zone as an offset in seconds. -/
def readZone : List Char → Except TimeFlaw (Int × List Char)
  | [] => .error .tooShort
  | char :: rest =>
    if char = 'Z' ∨ char = 'z' then .ok (0, rest)
    else if ((char :: rest).take 3).map Char.toUpper = ['U', 'T', 'C'] then .ok (0, rest.drop 2)
    else if char = '+' then readOffset rest
    else if char = '-' ∨ char = '−' then
      (readOffset rest).map fun (seconds, rest) => (-seconds, rest)
    else .error .invalid

/-- Reads a point in time. -/
def parse (text : String) : Except TimeFlaw Instant := do
  let (year, rest) ← readYear text.toList
  let rest ← readMark '-' rest
  let (month, rest) ← readPart 1 12 rest
  let rest ← readMark '-' rest
  let (day, rest) ← readPart 1 31 rest
  let rest ← readMiddle rest
  let (hour, rest) ← readPart 0 23 rest
  let rest ← readMark ':' rest
  let (minute, rest) ← readPart 0 59 rest
  let rest ← readMark ':' rest
  let (second, rest) ← readPart 0 60 rest
  let (nanos, rest) ← readFraction rest
  let (offset, rest) ← readZone (skipBlanks rest)
  if skipBlanks rest ≠ [] then .error .tooLong
  else
    let date : CivilDate := ⟨year, month, day⟩
    if !date.isValid then .error .outOfRange
    else if offset ≤ -86400 ∨ 86400 ≤ offset then .error .outOfRange
    else
      let leap := second = 60
      let ofDay : Nat := hour * 3600 + minute * 60 + if leap then 59 else second
      let seconds := date.toDays * 86400 + ofDay - offset
      if inRange seconds then .ok ⟨seconds, if leap then nanos + 1000000000 else nanos⟩
      else .error .impossible

end Instant

end FleetView
