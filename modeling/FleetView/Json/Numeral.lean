/-
Numerals of JSON texts: their shape, and the number each one stands for.
Integers that fit into 64 bits are exact. Any other numeral becomes a double by
a fixed recipe: as many leading digits as fit into 64 bits, scaled once by a
power of ten; this is fast and may be off by a rounding, which is part of how
numbers are read here.
-/

import FleetView.Json.Document
import FleetView.Word

namespace FleetView

/-- A numeral taken apart. -/
structure Numeral where
  negative : Bool
  whole : List Nat
  /-- Empty when there is no point. -/
  fraction : List Nat
  /-- Whether the exponent is negative, and its digits. -/
  exponent : Option (Bool × List Nat)

namespace Numeral

/-- The digits at the front and what follows them. -/
def digits : List Char → List Nat × List Char
  | [] => ([], [])
  | char :: rest =>
    if char.isDigit then
      let (more, left) := digits rest
      ((char.toNat - '0'.toNat) :: more, left)
    else ([], char :: rest)

/-- The flaw of a missing digit: the text is over, or something else is there. -/
def missingDigit : List Char → Flaw
  | [] => .endInWord
  | _ :: _ => .invalidNumber

/-- Reads the exponent, if there is one. -/
def scanExponent : List Char → Except Flaw (Option (Bool × List Nat) × List Char)
  | [] => .ok (none, [])
  | char :: rest =>
    if char = 'e' ∨ char = 'E' then
      let (negative, rest) : Bool × List Char :=
        match rest with
        | '-' :: rest => (true, rest)
        | '+' :: rest => (false, rest)
        | rest => (false, rest)
      match digits rest with
      | ([], rest) => .error (missingDigit rest)
      | (found, rest) => .ok (some (negative, found), rest)
    else .ok (none, char :: rest)

/-- Reads the fraction, if there is one. -/
def scanFraction : List Char → Except Flaw (List Nat × List Char)
  | '.' :: rest =>
    match digits rest with
    | ([], rest) => .error (missingDigit rest)
    | found => .ok found
  | rest => .ok ([], rest)

/-- Reads a numeral after its sign. A zero is not followed by another digit. -/
def scanUnsigned (negative : Bool) (text : List Char) :
    Except Flaw (Numeral × List Char) :=
  match digits text with
  | ([], rest) => .error (missingDigit rest)
  | (0 :: _ :: _, _) => .error .invalidNumber
  | (whole, rest) => do
    let (fraction, rest) ← scanFraction rest
    let (exponent, rest) ← scanExponent rest
    .ok (⟨negative, whole, fraction, exponent⟩, rest)

/-- Reads a numeral. -/
def scan : List Char → Except Flaw (Numeral × List Char)
  | '-' :: rest => scanUnsigned true rest
  | rest => scanUnsigned false rest

/-! ### The number a numeral stands for -/

/-- Appends digits to a significand as long as it fits into 64 bits; answers
with the digits that were left over. -/
def absorb (significand : Nat) : List Nat → Nat × List Nat
  | [] => (significand, [])
  | digit :: rest =>
    if significand * 10 + digit < Word.count 64 then absorb (significand * 10 + digit) rest
    else (significand, digit :: rest)

/-- The double next to a power of ten, up to the 308th. -/
def powerOfTen (exponent : Nat) : Float := Float.ofScientific 1 false exponent

/-- Scales a double by a power of ten; `none` when it grows beyond all doubles.
The steps are bounded because the third division leaves nothing. -/
def scale : Nat → Float → Int → Option Float
  | 0, value, _ => some value
  | steps + 1, value, exponent =>
    if exponent.natAbs ≤ 308 then
      if exponent ≥ 0 then
        let scaled := value * powerOfTen exponent.natAbs
        if scaled.isInf then none else some scaled
      else some (value / powerOfTen exponent.natAbs)
    else if value == 0.0 then some value
    else if exponent ≥ 0 then none
    else scale steps (value / powerOfTen 308) (exponent + 308)

/-- A double with its sign. -/
def signed (negative : Bool) (value : Float) : Number :=
  .double (if negative then -value else value).toBits

/-- The double for a significand and a power of ten. -/
def fromParts (negative : Bool) (significand : Nat) (exponent : Int) : Option Number :=
  (scale 5 (UInt64.ofNat significand).toFloat exponent).map (signed negative)

/-- Exponents are held in 32 bits; sums stay at the bounds. -/
def clamp (exponent : Int) : Int :=
  max (-(Word.count 31 : Int)) (min ((Word.count 31 : Int) - 1) exponent)

/-- The exponent as written, unless it is beyond 32 bits. -/
def exponentValue? (found : List Nat) : Option Nat :=
  let value := found.foldl (fun value digit => value * 10 + digit) 0
  if value < Word.count 31 then some value else none

/-- The number of a numeral, if it is not out of range. -/
def value? (numeral : Numeral) : Option Number :=
  let (significand, left) := absorb 0 numeral.whole
  match numeral.fraction, numeral.exponent, left with
  | [], none, [] =>
    if !numeral.negative then some (.integer significand)
    else if 0 < significand ∧ significand ≤ Word.count 63 then some (.integer (-significand))
    else some (signed true (UInt64.ofNat significand).toFloat)
  | fraction, exponent, left =>
    let (significand, unused) := absorb significand fraction
    let start : Int := left.length - (fraction.length - unused.length : Nat)
    match exponent with
    | none => fromParts numeral.negative significand start
    | some (down, found) =>
      match exponentValue? found with
      | some power =>
        fromParts numeral.negative significand (clamp (if down then start - power else start + power))
      | none => if significand = 0 ∨ down then some (signed numeral.negative 0.0) else none

end Numeral

end FleetView
