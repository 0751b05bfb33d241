/-
The fewest decimal digits that read back as a given double, and how such digits
are laid out as text. A double is taken apart into its bits, so the choice of
digits is exact arithmetic on natural numbers: the reals that round to a double
form an interval, and the digits are the nearest point of the coarsest decimal
grid that has a point in it.
-/

import FleetView.Word

namespace FleetView.Decimal

/-- A finite positive double together with the reals that round to it, over one
common denominator. -/
structure Interval where
  low : Nat
  value : Nat
  high : Nat
  denominator : Nat
  /-- Whether the two ends round to the double as well. -/
  closed : Bool

/-- The interval of a double given by its bits without the sign. Every number is
four times the significand or next to it, so that the halfway points to the
neighbours are whole; below a power of two the neighbour is twice as near. -/
def interval (bits : Nat) : Interval :=
  let exponent := bits / Word.count 52
  let fraction := bits % Word.count 52
  let significand := if exponent = 0 then fraction else fraction + Word.count 52
  let power : Int := ((if exponent = 0 then 1 else exponent : Nat) : Int) - 1077
  let scale := Nat.pow 2 power.toNat
  let below := if fraction = 0 ∧ exponent > 1 then 1 else 2
  { low := (4 * significand - below) * scale
    value := 4 * significand * scale
    high := (4 * significand + 2) * scale
    denominator := Nat.pow 2 (-power).toNat
    closed := significand % 2 = 0 }

/-- The digits of a number and the power of ten they are multiplied by. -/
structure Digits where
  digits : Nat
  exponent : Int
  deriving DecidableEq, Repr

/-- The power of ten at or below `numerator / denominator`, sought downwards. -/
def magnitudeBelow (numerator denominator : Nat) : Nat → Int → Int
  | 0, exponent => exponent
  | fuel + 1, exponent =>
    if denominator ≤ numerator then exponent
    else magnitudeBelow (numerator * 10) denominator fuel (exponent - 1)

/-- The power of ten at or below `numerator / denominator`. No double is below
`10 ^ (-324)`. -/
def magnitude (numerator denominator : Nat) : Int :=
  if denominator ≤ numerator then ((Nat.toDigits 10 (numerator / denominator)).length : Int) - 1
  else magnitudeBelow numerator denominator 400 0

/-- The point of the grid `10 ^ exponent` that is in the interval and nearest to
the value; of two that are equally near, the even one. -/
def Interval.onGrid? (double : Interval) (exponent : Int) : Option Digits :=
  let up := Nat.pow 10 exponent.toNat
  let down := Nat.pow 10 (-exponent).toNat
  let scaled (digits : Nat) := digits * up * double.denominator
  let low := double.low * down
  let value := double.value * down
  let high := double.high * down
  let inside (digits : Nat) :=
    if double.closed then low ≤ scaled digits && scaled digits ≤ high
    else low < scaled digits && scaled digits < high
  let below := value / (up * double.denominator)
  let above := below + 1
  match inside below, inside above with
  | false, false => none
  | true, false => some ⟨below, exponent⟩
  | false, true => some ⟨above, exponent⟩
  | true, true =>
    let toBelow := value - scaled below
    let toAbove := scaled above - value
    if toBelow < toAbove || (toBelow == toAbove && below % 2 == 0) then some ⟨below, exponent⟩
    else some ⟨above, exponent⟩

/-- Drops the zeros at the end of the digits. -/
def Digits.trimmed : Nat → Digits → Digits
  | 0, number => number
  | fuel + 1, number =>
    if number.digits ≠ 0 ∧ number.digits % 10 = 0 then
      Digits.trimmed fuel ⟨number.digits / 10, number.exponent + 1⟩
    else number

/-- Tries the grids from the coarsest on; seventeen digits always suffice. -/
def Interval.search (double : Interval) (top : Int) : Nat → Nat → Digits
  | 0, _ => ⟨0, 0⟩
  | fuel + 1, places =>
    match double.onGrid? (top - places) with
    | some number => number.trimmed 20
    | none => double.search top fuel (places + 1)

/-- The fewest digits that read back as the double with these bits; the sign is
not looked at. -/
def shortest (bits : UInt64) : Digits :=
  let magnitudeBits := bits.toNat % Word.count 63
  if magnitudeBits = 0 then ⟨0, 0⟩
  else
    let double := interval magnitudeBits
    double.search (magnitude double.value double.denominator) 18 0

/-- How digits become text. -/
structure Layout where
  /-- The scientific exponents that are written out with zeros. -/
  positional : Int → Bool
  /-- Whether a whole number keeps a point and a zero. -/
  pointed : Bool

/-- Puts the point into the digits, `point` places after their start. -/
def place (digits : List Char) (point : Int) (pointed : Bool) : List Char :=
  if point ≤ 0 then '0' :: '.' :: (List.replicate (-point).toNat '0' ++ digits)
  else if digits.length ≤ point.toNat then
    digits ++ List.replicate (point.toNat - digits.length) '0' ++
      (if pointed then ['.', '0'] else [])
  else digits.take point.toNat ++ '.' :: digits.drop point.toNat

/-- Lays out the double with these bits. An exponent always carries its sign. -/
def Layout.text (layout : Layout) (bits : UInt64) : String :=
  let number := shortest bits
  let digits := Nat.toDigits 10 number.digits
  let point := number.exponent + digits.length
  let sign := if bits.toNat < Word.count 63 then [] else ['-']
  let body :=
    if number.digits = 0 then place digits 1 layout.pointed
    else if layout.positional (point - 1) then place digits point layout.pointed
    else
      let power := point - 1
      digits.take 1 ++ (if digits.length = 1 then [] else '.' :: digits.drop 1) ++
        'e' :: (if power < 0 then '-' else '+') :: Nat.toDigits 10 power.natAbs
  String.ofList (sign ++ body)

/-- Lengths of time are written out in full and without a needless point. -/
def secondsLayout : Layout := ⟨fun _ => true, false⟩

end FleetView.Decimal
