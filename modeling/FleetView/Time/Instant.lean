/-
Points in time in UTC, as monitoring data has them, and their text. The
calendar is the proleptic Gregorian one; it is counted in eras of four hundred
years, each of which has the same number of days, with the year starting in
March so that the leap day comes last.
-/

namespace FleetView

/-- A point in time. Within a leap second the nanoseconds run on beyond one
thousand million. -/
structure Instant where
  /-- Seconds since the beginning of 1970. -/
  seconds : Int
  nanos : Nat
  deriving DecidableEq, Repr

/-- A day of the calendar. -/
structure CivilDate where
  year : Int
  month : Nat
  day : Nat
  deriving DecidableEq, Repr

namespace CivilDate

/-- Whether a year has a leap day. -/
def isLeap (year : Int) : Bool :=
  year % 4 == 0 && (year % 100 != 0 || year % 400 == 0)

/-- The length of a month. -/
def monthLength (year : Int) (month : Nat) : Nat :=
  match month with
  | 2 => if isLeap year then 29 else 28
  | 4 | 6 | 9 | 11 => 30
  | _ => 31

/-- The day's number, counted from the beginning of 1970. -/
def toDays (date : CivilDate) : Int :=
  let year := if date.month ≤ 2 then date.year - 1 else date.year
  let era := year / 400
  let yearOfEra := year % 400
  let shifted : Int := if date.month ≤ 2 then date.month + 9 else date.month - 3
  let dayOfYear := (153 * shifted + 2) / 5 + date.day - 1
  let dayOfEra := yearOfEra * 365 + yearOfEra / 4 - yearOfEra / 100 + dayOfYear
  era * 146097 + dayOfEra - 719468

/-- The day with a number. -/
def ofDays (days : Int) : CivilDate :=
  let shifted := days + 719468
  let era := shifted / 146097
  let dayOfEra := shifted % 146097
  let yearOfEra :=
    (dayOfEra - dayOfEra / 1460 + dayOfEra / 36524 - dayOfEra / 146096) / 365
  let dayOfYear := dayOfEra - (365 * yearOfEra + yearOfEra / 4 - yearOfEra / 100)
  let part := (5 * dayOfYear + 2) / 153
  let day := dayOfYear - (153 * part + 2) / 5 + 1
  let month := if part < 10 then part + 3 else part - 9
  let year := yearOfEra + era * 400
  ⟨if month ≤ 2 then year + 1 else year, month.toNat, day.toNat⟩

/-- The years that dates are kept for. -/
def yearInRange (year : Int) : Bool := -262143 ≤ year && year ≤ 262142

/-- Whether there is such a day. -/
def isValid (date : CivilDate) : Bool :=
  yearInRange date.year && 1 ≤ date.month && date.month ≤ 12 && 1 ≤ date.day &&
    date.day ≤ monthLength date.year date.month

end CivilDate

namespace Instant

/-- The first second that can be held. -/
def firstSecond : Int := CivilDate.toDays ⟨-262143, 1, 1⟩ * 86400

/-- The last second that can be held. -/
def lastSecond : Int := CivilDate.toDays ⟨262142, 12, 31⟩ * 86400 + 86399

/-- Whether a second can be held. -/
def inRange (seconds : Int) : Bool := firstSecond ≤ seconds && seconds ≤ lastSecond

/-- The point in time a number of seconds after the beginning of 1970. -/
def ofEpoch? (seconds : Int) : Option Instant :=
  if inRange seconds then some ⟨seconds, 0⟩ else none

/-! ### Text -/

/-- A number with zeros in front, up to a width. -/
def padded (width value : Nat) : List Char :=
  let digits := Nat.toDigits 10 value
  List.replicate (width - digits.length) '0' ++ digits

/-- A year: four digits, or a sign and at least four digits outside of those. -/
def yearText (year : Int) : List Char :=
  if 0 ≤ year ∧ year ≤ 9999 then padded 4 year.toNat
  else (if year < 0 then '-' else '+') :: padded 4 year.natAbs

/-- A fraction of a second, in as few groups of three digits as it needs. -/
def fractionText (nanos : Nat) : List Char :=
  if nanos = 0 then []
  else if nanos % 1000000 = 0 then '.' :: padded 3 (nanos / 1000000)
  else if nanos % 1000 = 0 then '.' :: padded 6 (nanos / 1000)
  else '.' :: padded 9 nanos

/-- Whether the point lies within a leap second. -/
def isLeap (instant : Instant) : Bool := 1000000000 ≤ instant.nanos

/-- The date. -/
def dateText (instant : Instant) : List Char :=
  let date := CivilDate.ofDays (instant.seconds / 86400)
  yearText date.year ++ '-' :: padded 2 date.month ++ '-' :: padded 2 date.day

/-- The time of day in whole seconds. -/
def clockText (instant : Instant) : List Char :=
  let second := (instant.seconds % 86400).toNat
  padded 2 (second / 3600) ++ ':' :: padded 2 (second / 60 % 60) ++
    ':' :: padded 2 (second % 60 + if instant.isLeap then 1 else 0)

/-- The date and the time with a letter for the zone. -/
def text (instant : Instant) : String :=
  String.ofList <|
    instant.dateText ++ 'T' :: instant.clockText ++
      fractionText (if instant.isLeap then instant.nanos - 1000000000 else instant.nanos) ++ ['Z']

/-- The date and the time in words, in whole seconds. -/
def tableText (instant : Instant) : String :=
  String.ofList (instant.dateText ++ ' ' :: instant.clockText ++ " UTC".toList)

end Instant

end FleetView
