/-
Names of hosts beyond ASCII, written with ASCII characters only. The characters
that are not ASCII are given behind the others, in ascending order, each by its
distance from the one before; the distances are written with digits of varying
weight that adapt to how large the distances have been.
-/

import FleetView.Word

namespace FleetView.Punycode

/-- The character of a digit: letters first, then the ten digits. -/
def digitChar (digit : Nat) : Char :=
  if digit < 26 then Char.ofNat (97 + digit) else Char.ofNat (22 + digit)

/-- The digit of a character, in either case. -/
def digit? (char : Char) : Option Nat :=
  let code := char.toNat
  if 97 ≤ code ∧ code ≤ 122 then some (code - 97)
  else if 65 ≤ code ∧ code ≤ 90 then some (code - 65)
  else if 48 ≤ code ∧ code ≤ 57 then some (code - 48 + 26)
  else none

/-- Below the threshold of its place a digit ends a number. -/
def threshold (place bias : Nat) : Nat := max 1 (min 26 (place - bias))

/-- Brings a distance below the limit; the steps suffice for any distance. -/
def damp : Nat → Nat → Nat → Nat
  | 0, delta, places => places + 36 * delta / (delta + 38)
  | fuel + 1, delta, places =>
    if 455 < delta then damp fuel (delta / 35) (places + 36)
    else places + 36 * delta / (delta + 38)

/-- The bias after a distance. -/
def adapt (delta count : Nat) (first : Bool) : Nat :=
  let start := if first then delta / 700 else delta / 2
  damp 16 (start + start / count) 0

/-- Writes a number; sixteen digits suffice for any distance. -/
def encodeNumber (bias : Nat) : Nat → Nat → Nat → List Char
  | 0, _, _ => []
  | fuel + 1, place, value =>
    let limit := threshold place bias
    if value < limit then [digitChar value]
    else digitChar (limit + (value - limit) % (36 - limit)) ::
      encodeNumber bias fuel (place + 36) ((value - limit) / (36 - limit))

/-- Where the writing of a name stands. -/
structure Progress where
  written : List Char
  delta : Nat
  bias : Nat
  handled : Nat

/-- Goes past one character of the name while the characters with code `code`
are being placed. -/
def pass (basic code : Nat) (progress : Progress) (char : Char) : Progress :=
  if char.toNat < code then { progress with delta := progress.delta + 1 }
  else if char.toNat = code then
    { written := progress.written ++ encodeNumber progress.bias 16 36 progress.delta
      delta := 0
      bias := adapt progress.delta (progress.handled + 1) (progress.handled = basic)
      handled := progress.handled + 1 }
  else progress

/-- The codes beyond ASCII, ascending and without repetition. -/
def codes (name : List Char) : List Nat :=
  ((name.map Char.toNat).filter (0x80 ≤ ·)).foldl insert []
where
  /-- Puts a code in its place. -/
  insert : List Nat → Nat → List Nat
    | [], code => [code]
    | other :: rest, code =>
      if code < other then code :: other :: rest
      else if code = other then other :: rest
      else other :: insert rest code

/-- Places all characters of each code in turn. -/
def placeAll (name : List Char) (basic : Nat) : List Nat → Nat → Progress → Progress
  | [], _, progress => progress
  | code :: rest, next, progress =>
    let reached :=
      { progress with delta := progress.delta + (code - next) * (progress.handled + 1) }
    let passed := name.foldl (pass basic code) reached
    placeAll name basic rest (code + 1) { passed with delta := passed.delta + 1 }

/-- Writes a name with ASCII characters only. -/
def encode (name : List Char) : List Char :=
  let basic := name.filter (·.toNat < 0x80)
  let placed := placeAll name basic.length (codes name) 0x80 ⟨[], 0, 72, basic.length⟩
  basic ++ (if basic.isEmpty then [] else ['-']) ++ placed.written

/-- Reads a number; what is left is shorter. Neither the number nor the weight of a
digit may go beyond 32 bits. -/
def decodeNumber (bias : Nat) : List Char → Nat → Nat → Nat → Option (Nat × List Char)
  | [], _, _, _ => none
  | char :: rest, place, weight, value => do
    let digit ← digit? char
    let value := value + digit * weight
    if Word.count 32 ≤ value then none
    else if digit < threshold place bias then some (value, rest)
    else
      let weight := weight * (36 - threshold place bias)
      if Word.count 32 ≤ weight then none else decodeNumber bias rest (place + 36) weight value

/-- Places the characters that the numbers stand for. -/
def decodeAll : Nat → List Char → Nat → Nat → Nat → List Char → Option (List Char)
  | 0, _, _, _, _, _ => none
  | _ + 1, placed, _, _, _, [] => some placed
  | fuel + 1, placed, bias, code, position, text => do
    let (reached, rest) ← decodeNumber bias text 36 1 position
    let count := placed.length + 1
    let code := code + reached / count
    let spot := reached % count
    if decide (Nat.isValidChar code) then
      decodeAll fuel (placed.take spot ++ Char.ofNat code :: placed.drop spot)
        (adapt (reached - position) count (position = 0)) code (spot + 1) rest
    else none

/-- Reads a name that was written with ASCII characters only. -/
def decode? (text : List Char) : Option (List Char) :=
  let tail := (text.reverse.takeWhile (· ≠ '-')).reverse
  let basic := text.take (text.length - tail.length - 1)
  decodeAll (text.length + 1) basic 72 0x80 0 tail

end FleetView.Punycode
