/-
Machine words. A word of so many bits holds the naturals below the count of its
values; read with a sign, it holds as many integers, half of them negative.
-/

namespace FleetView.Word

/-- How many values a word of so many bits has. -/
def count (bits : Nat) : Nat := Nat.pow 2 bits

/-- Whether an integer fits into a word of so many bits with a sign. -/
def holds (bits : Nat) (value : Int) : Bool :=
  decide (-(count (bits - 1) : Int) ≤ value) && decide (value < (count (bits - 1) : Int))

end FleetView.Word
