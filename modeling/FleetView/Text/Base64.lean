/-
Base64 with the standard alphabet, used to send credentials and to read
certificates. It is written with padding and read with or without it.
-/

namespace FleetView.Text.Base64

/-- The character for six bits. -/
def digit (value : Nat) : Char :=
  if value < 26 then Char.ofNat (65 + value)
  else if value < 52 then Char.ofNat (97 + (value - 26))
  else if value < 62 then Char.ofNat (48 + (value - 52))
  else if value = 62 then '+' else '/'

/-- The six bits of a character. -/
def value? (char : Char) : Option Nat :=
  let code := char.toNat
  if 65 ≤ code ∧ code ≤ 90 then some (code - 65)
  else if 97 ≤ code ∧ code ≤ 122 then some (code - 97 + 26)
  else if 48 ≤ code ∧ code ≤ 57 then some (code - 48 + 52)
  else if char = '+' then some 62
  else if char = '/' then some 63
  else none

/-- Three bytes become four characters; a shorter last group is padded. -/
def encodeChars : List UInt8 → List Char
  | [] => []
  | [a] => [digit (a.toNat / 4), digit (a.toNat % 4 * 16), '=', '=']
  | [a, b] =>
    [digit (a.toNat / 4), digit (a.toNat % 4 * 16 + b.toNat / 16), digit (b.toNat % 16 * 4), '=']
  | a :: b :: c :: rest =>
    digit (a.toNat / 4) :: digit (a.toNat % 4 * 16 + b.toNat / 16) ::
      digit (b.toNat % 16 * 4 + c.toNat / 64) :: digit (c.toNat % 64) :: encodeChars rest

/-- The text for some bytes. -/
def encode (bytes : List UInt8) : String := String.ofList (encodeChars bytes)

/-- Reads groups of four characters. The padding of the last group may be missing,
and the bits that it stands for do not count. -/
def decodeGroups? : List Char → Option (List UInt8)
  | [] => some []
  | [p, q] | [p, q, '=', '='] => do
    let a ← value? p
    let b ← value? q
    some [UInt8.ofNat (a * 4 + b / 16)]
  | [p, q, r] | [p, q, r, '='] => do
    let a ← value? p
    let b ← value? q
    let c ← value? r
    some [UInt8.ofNat (a * 4 + b / 16), UInt8.ofNat (b % 16 * 16 + c / 4)]
  | p :: q :: r :: s :: rest => do
    let a ← value? p
    let b ← value? q
    let c ← value? r
    let d ← value? s
    let bytes ← decodeGroups? rest
    some (UInt8.ofNat (a * 4 + b / 16) :: UInt8.ofNat (b % 16 * 16 + c / 4) ::
      UInt8.ofNat (c % 4 * 64 + d) :: bytes)
  | _ => none

/-- Whether a character is passed over when bytes are read. -/
def isBlank (char : Char) : Bool := char == ' ' || (9 ≤ char.toNat && char.toNat ≤ 13)

/-- The bytes that a text stands for. -/
def decode? (text : List Char) : Option (List UInt8) :=
  decodeGroups? (text.filter fun char => !isBlank char)

end FleetView.Text.Base64
