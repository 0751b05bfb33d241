/-
This file proves that the calendar counts days one by one: every number belongs to a date
that exists, and the number of that date is the number again. An era has four centuries, a
century has leap cycles of four years, and what is left over comes last each time, because
years begin in March. A day is therefore found by dividing again and again. In terms of the
quotients all formulas of the calendar are linear.
-/

import Mathlib
import FleetView.Time.Instant

namespace FleetView.CivilDate

/-! ### Days of an era -/

theorem isLeap_iff {year : Int} :
    isLeap year = true ↔ year % 4 = 0 ∧ (year % 100 ≠ 0 ∨ year % 400 = 0) := by
  simp [isLeap]

/-- Where a day lies: in which year of which leap cycle of which century of which era, and where
in that year. The last year of a cycle may have a day more than the others, but not in the last
cycle of a century, unless the century is the last one. -/
structure Place (days : Int) where
  era : Int
  century : Int
  cycle : Int
  last : Int
  day : Int
  century_bounds : 0 ≤ century ∧ century ≤ 3
  cycle_bounds : 0 ≤ cycle ∧ cycle ≤ 24
  last_bounds : 0 ≤ last ∧ last ≤ 3
  day_bounds : 0 ≤ day ∧ day ≤ 365
  leap : day = 365 → last = 3 ∧ (cycle < 24 ∨ century = 3)
  sum : days + 719468 = 146097 * era + 36524 * century + 1461 * cycle + 365 * last + day

theorem nonempty_place (days : Int) : Nonempty (Place days) := by
  obtain ⟨ofEra, isOfEra⟩ : ∃ ofEra, ofEra = (days + 719468) % 146097 := ⟨_, rfl⟩
  obtain ⟨century, isCentury⟩ : ∃ century, century = min (ofEra / 36524) 3 := ⟨_, rfl⟩
  obtain ⟨ofCentury, isOfCentury⟩ : ∃ ofCentury, ofCentury = ofEra - 36524 * century := ⟨_, rfl⟩
  obtain ⟨last, isLast⟩ : ∃ last, last = min (ofCentury % 1461 / 365) 3 := ⟨_, rfl⟩
  have centuries : 0 ≤ century ∧ century ≤ 3 ∧ 0 ≤ ofCentury ∧ ofCentury ≤ 36524 ∧
      (ofCentury = 36524 → century = 3) := by omega
  exact ⟨{
    era := (days + 719468) / 146097
    century := century
    cycle := ofCentury / 1461
    last := last
    day := ofCentury % 1461 - 365 * last
    century_bounds := by omega
    cycle_bounds := by omega
    last_bounds := by omega
    day_bounds := by omega
    leap := by omega
    sum := by omega }⟩

namespace Place

variable {days : Int} (place : Place days)

/-- The year of the era. -/
def yearOfEra : Int := 100 * place.century + 4 * place.cycle + place.last

/-- The year, where years begin in March. -/
def year : Int := place.yearOfEra + place.era * 400

/-- The day of the century. -/
def dayOfCentury : Int := 1461 * place.cycle + 365 * place.last + place.day

/-- The day of the era. -/
def dayOfEra : Int :=
  place.yearOfEra * 365 + place.yearOfEra / 4 - place.yearOfEra / 100 + place.day

theorem yearOfEra_bounds : 0 ≤ place.yearOfEra ∧ place.yearOfEra < 400 := by
  have century := place.century_bounds
  have cycle := place.cycle_bounds
  have last := place.last_bounds
  rw [yearOfEra]
  omega

theorem yearOfEra_div_four : place.yearOfEra / 4 = 25 * place.century + place.cycle := by
  have last := place.last_bounds
  rw [yearOfEra]
  omega

theorem yearOfEra_div_hundred : place.yearOfEra / 100 = place.century := by
  have cycle := place.cycle_bounds
  have last := place.last_bounds
  rw [yearOfEra]
  omega

theorem dayOfEra_eq : place.dayOfEra = 36524 * place.century + place.dayOfCentury := by
  rw [dayOfEra, dayOfCentury, yearOfEra_div_four, yearOfEra_div_hundred, yearOfEra]
  omega

/-- Only the last century is as long as a century can be. -/
theorem dayOfCentury_bounds :
    0 ≤ place.dayOfCentury ∧ place.dayOfCentury ≤ 36524 ∧
      (place.dayOfCentury = 36524 → place.century = 3) := by
  have cycle := place.cycle_bounds
  have last := place.last_bounds
  have day := place.day_bounds
  have leap := place.leap
  rw [dayOfCentury]
  omega

theorem dayOfEra_bounds : 0 ≤ place.dayOfEra ∧ place.dayOfEra < 146097 := by
  have century := place.century_bounds
  have within := place.dayOfCentury_bounds
  rw [dayOfEra_eq]
  omega

theorem days_eq : days + 719468 = 146097 * place.era + place.dayOfEra := by
  have sum := place.sum
  rw [dayOfEra_eq, dayOfCentury]
  omega

theorem dayOfEra_centuries :
    place.dayOfEra / 36524 - place.dayOfEra / 146096 = place.century := by
  have century := place.century_bounds
  have within := place.dayOfCentury_bounds
  rw [dayOfEra_eq]
  omega

/-- All years are of one length after leap days are taken away, one every four years, and one is
given back every century. -/
theorem yearOfEra_eq :
    (place.dayOfEra - place.dayOfEra / 1460 + place.dayOfEra / 36524 - place.dayOfEra / 146096) /
      365 = place.yearOfEra := by
  have century := place.century_bounds
  have cycle := place.cycle_bounds
  have last := place.last_bounds
  have day := place.day_bounds
  have leap := place.leap
  have centuries := place.dayOfEra_centuries
  have told := place.dayOfEra_eq
  rw [dayOfCentury] at told
  -- Cycles are a day longer than what is divided by here, so what has gathered counts as well.
  obtain ⟨gathered, isGathered⟩ : ∃ gathered,
    gathered = 24 * place.century + place.cycle + 365 * place.last + place.day := ⟨_, rfl⟩
  have cycles : place.dayOfEra / 1460 = 25 * place.century + place.cycle + gathered / 1460 := by
    omega
  have short : 0 ≤ place.day - gathered / 1460 ∧ place.day - gathered / 1460 < 365 := by omega
  rw [yearOfEra]
  omega

theorem isLeap_year_succ (long : place.day = 365) : isLeap (place.year + 1) = true := by
  have century := place.century_bounds
  have cycle := place.cycle_bounds
  have leap := place.leap long
  rw [isLeap_iff, year, yearOfEra]
  omega

end Place

/-! ### Days of a year -/

/-- The month that is a part of a year that begins in March. -/
def monthOf (part : Int) : Int := if part < 10 then part + 3 else part - 9

/-- The days of such a year before a part of it. -/
def daysBefore (part : Int) : Int := (153 * part + 2) / 5

/-- The date of a day of such a year. -/
def ofMarch (year day : Int) : CivilDate :=
  let part := (5 * day + 2) / 153
  ⟨if monthOf part ≤ 2 then year + 1 else year, (monthOf part).toNat,
    (day - daysBefore part + 1).toNat⟩

theorem Place.ofDays_eq {days : Int} (place : Place days) :
    ofDays days = ofMarch place.year place.day := by
  have within := place.dayOfEra_bounds
  have told := place.days_eq
  have era : (days + 719468) / 146097 = place.era := by omega
  have dayOfEra : (days + 719468) % 146097 = place.dayOfEra := by omega
  have day : place.dayOfEra -
      (365 * place.yearOfEra + place.yearOfEra / 4 - place.yearOfEra / 100) = place.day := by
    rw [Place.dayOfEra]
    omega
  rw [ofDays, era, dayOfEra, place.yearOfEra_eq, day]
  rfl

theorem monthOf_bounds {part : Int} (least : 0 ≤ part) (most : part ≤ 11) :
    1 ≤ monthOf part ∧ monthOf part ≤ 12 := by
  rw [monthOf]
  split <;> omega

/-- Only the last part of such a year is not always of the same length. -/
theorem monthLength_monthOf (year : Int) {part : Int} (least : 0 ≤ part) (most : part < 11) :
    (monthLength year (monthOf part).toNat : Int) = daysBefore (part + 1) - daysBefore part := by
  interval_cases part <;> rfl

section

variable {year day : Int} (nonneg : 0 ≤ day) (le : day ≤ 365)

include nonneg le

theorem part_bounds :
    0 ≤ (5 * day + 2) / 153 ∧ (5 * day + 2) / 153 ≤ 11 ∧
      daysBefore ((5 * day + 2) / 153) ≤ day ∧ day < daysBefore ((5 * day + 2) / 153 + 1) := by
  rw [daysBefore, daysBefore]
  omega

/-- January and February belong to the next year. -/
theorem year_ofMarch : (ofMarch year day).year = if day < 306 then year else year + 1 := by
  rw [ofMarch, monthOf]
  dsimp only
  split_ifs <;> omega

/-- There is such a day in the month. -/
theorem ofMarch_valid (leap : day = 365 → isLeap (year + 1) = true) :
    1 ≤ (ofMarch year day).month ∧ (ofMarch year day).month ≤ 12 ∧ 1 ≤ (ofMarch year day).day ∧
      (ofMarch year day).day ≤ monthLength (ofMarch year day).year (ofMarch year day).month := by
  obtain ⟨least, most, before, after⟩ := part_bounds nonneg le
  rw [ofMarch]
  dsimp only
  generalize (5 * day + 2) / 153 = part at least most before after ⊢
  obtain ⟨first, final⟩ := monthOf_bounds least most
  refine ⟨by omega, by omega, by omega, ?_⟩
  rcases lt_or_eq_of_le most with early | rfl
  · have length := monthLength_monthOf (if monthOf part ≤ 2 then year + 1 else year) least early
    omega
  · show (day - 337 + 1).toNat ≤ if isLeap (year + 1) then 29 else 28
    split_ifs with long
    · omega
    · have short := mt leap long
      omega

theorem toDays_ofMarch :
    (ofMarch year day).toDays = year / 400 * 146097 +
      (year % 400 * 365 + year % 400 / 4 - year % 400 / 100 + day) - 719468 := by
  obtain ⟨least, most, before, -⟩ := part_bounds nonneg le
  rw [ofMarch, toDays]
  dsimp only
  generalize (5 * day + 2) / 153 = part at least most before ⊢
  have sameYear : (if (monthOf part).toNat ≤ 2 then
      (if monthOf part ≤ 2 then year + 1 else year) - 1
    else if monthOf part ≤ 2 then year + 1 else year) = year := by
    split_ifs <;> omega
  have samePart : (if (monthOf part).toNat ≤ 2 then ((monthOf part).toNat : Int) + 9
      else (monthOf part).toNat - 3) = part := by
    rw [monthOf]
    split_ifs <;> omega
  rw [sameYear, samePart]
  rw [daysBefore] at *
  omega

end

/-! ### Days of the calendar -/

/-- The date with a number has that number. -/
theorem toDays_ofDays (days : Int) : (ofDays days).toDays = days := by
  obtain ⟨place⟩ := nonempty_place days
  obtain ⟨nonneg, le⟩ := place.day_bounds
  have within := place.yearOfEra_bounds
  have era : place.year / 400 = place.era := by
    rw [Place.year]
    omega
  have yearOfEra : place.year % 400 = place.yearOfEra := by
    rw [Place.year]
    omega
  have told := place.days_eq
  rw [Place.dayOfEra] at told
  rw [place.ofDays_eq, toDays_ofMarch nonneg le, era, yearOfEra]
  omega

theorem yearInRange_ofDays {days : Int} (least : toDays ⟨-262143, 1, 1⟩ ≤ days)
    (most : days ≤ toDays ⟨262142, 12, 31⟩) : yearInRange (ofDays days).year = true := by
  have first : toDays ⟨-262143, 1, 1⟩ = -96465292 := by decide
  have final : toDays ⟨262142, 12, 31⟩ = 95026236 := by decide
  obtain ⟨place⟩ := nonempty_place days
  obtain ⟨nonneg, le⟩ := place.day_bounds
  have century := place.century_bounds
  have cycle := place.cycle_bounds
  have last := place.last_bounds
  have sum := place.sum
  have lower : -262144 ≤ place.year ∧ (place.year = -262144 → 306 ≤ place.day) := by
    rw [Place.year, Place.yearOfEra]
    omega
  have upper : place.year ≤ 262142 ∧ (place.year = 262142 → place.day < 306) := by
    rw [Place.year, Place.yearOfEra]
    omega
  rw [place.ofDays_eq, year_ofMarch nonneg le, yearInRange, Bool.and_eq_true,
    decide_eq_true_iff, decide_eq_true_iff]
  split_ifs <;> omega

theorem monthLength_le (year : Int) (month : Nat) : monthLength year month ≤ 31 := by
  unfold monthLength
  split
  · split <;> decide
  all_goals decide

theorem bounds_of_isValid {date : CivilDate} (valid : date.isValid = true) :
    yearInRange date.year = true ∧ 1 ≤ date.month ∧ date.month ≤ 12 ∧ 1 ≤ date.day ∧
      date.day ≤ 31 := by
  simp only [isValid, Bool.and_eq_true, decide_eq_true_iff] at valid
  obtain ⟨⟨⟨⟨inRange, first⟩, final⟩, least⟩, most⟩ := valid
  exact ⟨inRange, first, final, least, le_trans most (monthLength_le date.year date.month)⟩

/-- Between the first day that is kept and the last, every number belongs to a date that exists. -/
theorem isValid_ofDays {days : Int} (least : toDays ⟨-262143, 1, 1⟩ ≤ days)
    (most : days ≤ toDays ⟨262142, 12, 31⟩) : (ofDays days).isValid = true := by
  have inRange := yearInRange_ofDays least most
  obtain ⟨place⟩ := nonempty_place days
  obtain ⟨nonneg, le⟩ := place.day_bounds
  have valid := ofMarch_valid nonneg le place.isLeap_year_succ
  rw [← place.ofDays_eq] at valid
  simp only [isValid, inRange, Bool.true_and, Bool.and_eq_true, decide_eq_true_iff]
  tauto

end FleetView.CivilDate
