/-
JSON values as text: a compact form without any spaces, used wherever text is
compared or sent, and an indented form for people. Both write the members of an
object in the order in which the value has them.
-/

import FleetView.Json.Basic
import FleetView.Decimal.Shortest

namespace FleetView

/-- A double is written out where its exponent is small; a whole one keeps a
point and a zero so that it reads back as a double. -/
def Number.layout : Decimal.Layout :=
  { positional := fun exponent => decide (-5 ≤ exponent ∧ exponent < 16), pointed := true }

/-- The decimal digits of an integer. -/
def Number.integerText (value : Int) : List Char :=
  (if value < 0 then ['-'] else []) ++ Nat.toDigits 10 value.natAbs

/-- The text of a number. -/
def Number.text : Number → String
  | .integer value => String.ofList (Number.integerText value)
  | .double bits => Number.layout.text bits

namespace Json

/-- One hexadecimal digit, in lower case. -/
def hexDigit (value : Nat) : Char :=
  if value < 10 then Char.ofNat (48 + value) else Char.ofNat (87 + value)

/-- A character inside a string. Quotes, backslashes and control characters are
escaped, everything else stands for itself. -/
def escape (char : Char) : List Char :=
  if char = '"' then ['\\', '"']
  else if char = '\\' then ['\\', '\\']
  else if char = '\x08' then ['\\', 'b']
  else if char = '\x0c' then ['\\', 'f']
  else if char = '\n' then ['\\', 'n']
  else if char = '\r' then ['\\', 'r']
  else if char = '\t' then ['\\', 't']
  else if char.toNat < 0x20 then
    ['\\', 'u', '0', '0', hexDigit (char.toNat / 16), hexDigit (char.toNat % 16)]
  else [char]

/-- A string with its quotes. -/
def quote (text : String) : List Char := '"' :: (text.toList.flatMap escape ++ ['"'])

/-! ### The compact form -/

mutual

/-- The characters of a value. -/
def chars : Json → List Char
  | .null => ['n', 'u', 'l', 'l']
  | .bool true => ['t', 'r', 'u', 'e']
  | .bool false => ['f', 'a', 'l', 's', 'e']
  | .number value => value.text.toList
  | .string text => quote text
  | .array [] => ['[', ']']
  | .array (item :: items) => '[' :: (chars item ++ charsOfItems items)
  | .object [] => ['\x7b', '\x7d']
  | .object ((name, value) :: members) =>
    '\x7b' :: (quote name ++ ':' :: (chars value ++ charsOfMembers members))

/-- The rest of an array after its first item. -/
def charsOfItems : List Json → List Char
  | [] => [']']
  | item :: items => ',' :: (chars item ++ charsOfItems items)

/-- The rest of an object after its first member. -/
def charsOfMembers : List (String × Json) → List Char
  | [] => ['\x7d']
  | (name, value) :: members =>
    ',' :: (quote name ++ ':' :: (chars value ++ charsOfMembers members))

end

/-- A value without spaces. -/
def compact (value : Json) : String := String.ofList value.chars

/-! ### The indented form -/

/-- A line break and the indentation of a level, two spaces each. -/
def newline (level : Nat) : List Char := '\n' :: List.replicate (2 * level) ' '

mutual

/-- The characters of a value that starts at a level. -/
def prettyChars (level : Nat) : Json → List Char
  | .array [] => ['[', ']']
  | .array (item :: items) =>
    '[' :: (newline (level + 1) ++ prettyChars (level + 1) item ++ prettyItems level items)
  | .object [] => ['\x7b', '\x7d']
  | .object ((name, value) :: members) =>
    '\x7b' :: (newline (level + 1) ++ quote name ++ ':' :: ' ' ::
      (prettyChars (level + 1) value ++ prettyMembers level members))
  | .null => chars .null
  | .bool value => chars (.bool value)
  | .number value => chars (.number value)
  | .string text => chars (.string text)

/-- The rest of an indented array after its first item. -/
def prettyItems (level : Nat) : List Json → List Char
  | [] => newline level ++ [']']
  | item :: items =>
    ',' :: (newline (level + 1) ++ prettyChars (level + 1) item ++ prettyItems level items)

/-- The rest of an indented object after its first member. -/
def prettyMembers (level : Nat) : List (String × Json) → List Char
  | [] => newline level ++ ['\x7d']
  | (name, value) :: members =>
    ',' :: (newline (level + 1) ++ quote name ++ ':' :: ' ' ::
      (prettyChars (level + 1) value ++ prettyMembers level members))

end

/-- A value over several lines. -/
def pretty (value : Json) : String := String.ofList (value.prettyChars 0)

end Json

end FleetView
