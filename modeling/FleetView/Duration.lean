/-
Lengths of time in milliseconds, and how they are shown in seconds.
-/

import FleetView.Decimal.Shortest

namespace FleetView

/-- A length of time. -/
structure Duration where
  milliseconds : Nat
  deriving DecidableEq, Repr

namespace Duration

/-- A whole number of seconds. -/
def ofSeconds (seconds : Nat) : Duration := ⟨seconds * 1000⟩

/-- The whole seconds in a length of time. -/
def wholeSeconds (duration : Duration) : Nat := duration.milliseconds / 1000

/-- Whether the length is nothing. -/
def isZero (duration : Duration) : Bool := duration.milliseconds = 0

/-- The longer of two. -/
def longer (one other : Duration) : Duration := ⟨max one.milliseconds other.milliseconds⟩

/-- Whether a first limit runs out before a second one that has begun with it. Of two that are
equally long, either may: `ahead` is whether it is the first. -/
def precedes (first second : Duration) (ahead : Bool) : Bool :=
  first.milliseconds < second.milliseconds ||
    (first.milliseconds = second.milliseconds && ahead)

theorem le_of_precedes {first second : Duration} {ahead : Bool}
    (precedes : first.precedes second ahead = true) :
    first.milliseconds ≤ second.milliseconds := by
  simp only [Duration.precedes, Bool.or_eq_true, Bool.and_eq_true, decide_eq_true_eq] at precedes
  omega

theorem precedes_of_le {first second : Duration} (le : first.milliseconds ≤ second.milliseconds) :
    first.precedes second true = true := by
  simp only [Duration.precedes, Bool.or_eq_true, Bool.and_true, decide_eq_true_eq]
  omega

/-- The length in seconds as a double. -/
def seconds (duration : Duration) : Float :=
  (UInt64.ofNat duration.wholeSeconds).toFloat +
    (UInt64.ofNat (duration.milliseconds % 1000 * 1000000)).toFloat / 1000000000.0

/-- The length in seconds as text. -/
def text (duration : Duration) : String :=
  Decimal.secondsLayout.text duration.seconds.toBits

end Duration

end FleetView
