/-
The double nearest to a decimal. A decimal is a significand and a power of ten;
where the power alone decides that the value is beyond all doubles or below all
of them, nothing is computed, so that a long exponent costs nothing.
-/

namespace FleetView.Decimal

/-- How many digits a number has; zero has none. -/
def digitCount (value : Nat) : Nat := if value = 0 then 0 else (Nat.repr value).length

/-- The double nearest to `significand * 10 ^ exponent`. -/
def nearest (significand : Nat) (exponent : Int) : Float :=
  let order : Int := digitCount significand + exponent
  if significand = 0 ∨ order < -400 then 0.0
  else if 400 < order then 1.0 / 0.0
  else Float.ofScientific significand (exponent < 0) exponent.natAbs

end FleetView.Decimal
