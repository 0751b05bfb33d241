/-
Texts in quotes, as they are shown inside messages. Whatever could not be told
apart on a screen is written as an escape.
-/

import FleetView.Unicode.Unseen

namespace FleetView.Text

/-- The two marks that take room of their own although they extend what is before
them. -/
def isStandingMark (char : Char) : Bool := char.toNat == 0xFF9E || char.toNat == 0xFF9F

/-- Whether a character is written as an escape that gives its code. -/
def isEscaped (char : Char) : Bool :=
  Unicode.isUnseen char || (Unicode.isExtender char && !isStandingMark char)

/-- One character between quotes. -/
def quotedChar (char : Char) : List Char :=
  if char = '"' then ['\\', '"']
  else if char = '\\' then ['\\', '\\']
  else if char = '\t' then ['\\', 't']
  else if char = '\r' then ['\\', 'r']
  else if char = '\n' then ['\\', 'n']
  else if char.toNat = 0 then ['\\', '0']
  else if 0x20 ≤ char.toNat ∧ char.toNat < 0x7F then [char]
  else if isEscaped char then ['\\', 'u', '\x7b'] ++ Nat.toDigits 16 char.toNat ++ ['\x7d']
  else [char]

/-- A text in quotes. -/
def quoted (text : String) : String :=
  String.ofList ('"' :: (text.toList.flatMap quotedChar ++ ['"']))

end FleetView.Text
