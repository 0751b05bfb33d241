/-
Settings from variables of the environment. The name of a variable says where its
setting belongs, and its text says what the setting is: lists, maps, texts in
quotes, single characters, truth values and numbers are recognized, and anything
else is the text itself.
-/

import FleetView.Toml.Scalar
import FleetView.Text.Blank

namespace FleetView

/-- The variables of an environment, in order. -/
abbrev Environment := List (String × String)

namespace Environment

/-- The text of a variable. -/
def get? (environment : Environment) (name : String) : Option String :=
  (environment.find? (·.1 = name)).map (·.2)

end Environment

namespace Variable

open Toml (Scan)

/-! ### Texts -/

/-- The blanks that may stand around the parts of a setting. -/
def isSpace (char : Char) : Bool :=
  char == ' ' || char == '\t' || char == '\n' || char == '\x0c' || char == '\r'

/-- Drops spaces at the front. -/
def skipSpace (text : List Char) : List Char := text.dropWhile isSpace

/-- The characters that end a text without quotes. -/
def isSeparator (char : Char) : Bool :=
  char == ',' || char == '\x7b' || char == '\x7d' || char == '[' || char == ']'

/-- Takes what stands before the closing quote; `escaped` says whether a backslash
stands right before the front, which then closes nothing. -/
def scanInner (escaped : Bool) : Scan (List Char)
  | [] => none
  | char :: rest =>
    if char = '"' ∧ !escaped then some ([], rest)
    else (scanInner (!escaped && char == '\\') rest).map fun (more, rest) => (char :: more, rest)

/-- Replaces the escapes in a text; the number bounds the steps. -/
def unescape : Nat → List Char → Option (List Char)
  | 0, _ => none
  | _ + 1, [] => some []
  | fuel + 1, char :: rest => do
    let (char, rest) ←
      if char = '\\' then Toml.scanEscape rest
      else if Toml.isPlain char then some (char, rest)
      else none
    some (char :: (← unescape fuel rest))

/-- The characters at the front of a text that fit into a number of bytes. -/
def fitting : Nat → List Char → List Char
  | _, [] => []
  | room, char :: rest =>
    if char.utf8Size ≤ room then char :: fitting (room - char.utf8Size) rest else []

/-- Reads a text in quotes behind the first of them. Where it has escapes, what
stands before the first of them keeps as many bytes as it has characters. -/
def scanString (text : List Char) : Option (String × List Char) := do
  let (inner, rest) ← scanInner false text
  let front := inner.takeWhile (· ≠ '\\')
  let behind := inner.drop front.length
  let kept := if behind = [] then front else fitting front.length front
  if front.all Toml.isPlain then
    some (String.ofList (kept ++ (← unescape (behind.length + 1) behind)), rest)
  else none

/-! ### Numbers -/

/-- The value of a text of digits, which must not be empty. -/
def digits? (text : List Char) : Option Nat :=
  if text ≠ [] ∧ text.all Char.isDigit then some (Toml.digitsValue 10 text) else none

/-- The integer a text spells, if it fits into 64 bits. -/
def integer? (text : List Char) : Option Json :=
  match text with
  | '-' :: rest => (digits? rest).bind fun value =>
    if value ≤ Word.count 63 then some (.int (-value)) else none
  | '+' :: rest => natural? rest
  | rest => natural? rest
where
  /-- A number without a minus sign. -/
  natural? (text : List Char) : Option Json :=
    (digits? text).bind fun value => if value < Word.count 64 then some (.nat value) else none

/-- The exponent a text spells: nothing, or a letter and an integer. -/
def exponent? (text : List Char) : Option Int :=
  match text with
  | [] => some 0
  | char :: rest =>
    if char = 'e' ∨ char = 'E' then
      let (negative, rest) := Toml.takeSign rest
      (digits? rest).map fun value => if negative then -(value : Int) else value
    else none

/-- The double that a text with a point spells. -/
def double? (text : List Char) : Option Json :=
  let (negative, rest) := Toml.takeSign text
  let whole := rest.takeWhile Char.isDigit
  match rest.dropWhile Char.isDigit with
  | '.' :: rest =>
    let fraction := rest.takeWhile Char.isDigit
    if whole = [] ∧ fraction = [] then none
    else (exponent? (rest.dropWhile Char.isDigit)).map fun exponent =>
      Toml.double negative
        (Decimal.nearest (Toml.digitsValue 10 (whole ++ fraction)) (exponent - fraction.length))
  | _ => none

/-- What a text without quotes stands for. -/
def ofPlain (text : List Char) : Json :=
  let double := if '.' ∈ text then double? text else none
  (double.or (integer? text)).getD (.string (String.ofList text))

/-! ### Values -/

/-- Reads parts behind an opening bracket. A comma may follow the last one. -/
def scanParts {α : Type} (part : Scan α) (closing : Char) : Nat → Scan (List α)
  | 0, _ => none
  | _ + 1, [] => none
  | fuel + 1, char :: rest =>
    if char = closing then some ([], rest)
    else do
      let (found, rest) ← part (char :: rest)
      match rest with
      | ',' :: rest =>
        let (more, rest) ← scanParts part closing fuel rest
        some (found :: more, rest)
      | other :: rest => if other = closing then some ([found], rest) else none
      | [] => none

/-- Reads a name in a map and the mark behind it. -/
def scanName (text : List Char) : Option (String × List Char) := do
  let (name, rest) ←
    match skipSpace text with
    | '"' :: rest => scanString rest
    | text =>
      match text.takeWhile fun char => char.isAlphanum || char == '_' || char == '-' with
      | [] => none
      | found => some (String.ofList found, text.drop found.length)
  some (name, ← Toml.skipMark '=' (skipSpace rest))

/-- Reads a value and the spaces around it; the number bounds how deep it may be
nested. -/
def scanValue : Nat → Scan Json
  | 0, _ => none
  | depth + 1, text => do
    let (value, rest) ←
      match skipSpace text with
      | 't' :: 'r' :: 'u' :: 'e' :: rest => some (.bool true, rest)
      | 'f' :: 'a' :: 'l' :: 's' :: 'e' :: rest => some (.bool false, rest)
      | '\x7b' :: rest => do
        let member : Scan (String × Json) := fun text => do
          let (name, rest) ← scanName text
          let (value, rest) ← scanValue depth rest
          some ((name, value), rest)
        let (members, rest) ← scanParts member '\x7d' (rest.length + 1) rest
        some (.object (Bag.ofMembers members), rest)
      | '[' :: rest => do
        let (items, rest) ← scanParts (scanValue depth) ']' (rest.length + 1) rest
        some (.array items, rest)
      | '"' :: rest => (scanString rest).map fun (found, rest) => (Json.string found, rest)
      | '\'' :: rest =>
        match rest with
        | char :: '\'' :: rest => some (.string (String.singleton char), rest)
        | _ => none
      | text =>
        let found := text.takeWhile fun char => !isSeparator char
        some (ofPlain (Text.trimBoth Text.isBlank found), text.drop found.length)
    some (value, skipSpace rest)

/-- The setting that the text of a variable stands for. -/
def setting (text : String) : Json :=
  match scanValue (text.toList.length + 1) text.toList with
  | some (value, []) => value
  | _ => .string text

/-! ### Names -/

/-- What the names of all settings start with, in either case. -/
def mark : List Char := "vantage_".toList

/-- Two low lines in a name stand for a step into a section. -/
def steps : List Char → List Char
  | '_' :: '_' :: rest => '.' :: steps rest
  | char :: rest => char :: steps rest
  | [] => []

/-- The path to the setting of a variable, if it names one. Blanks around a name
do not count. -/
def path? (name : String) : Option (List String) :=
  let lower := (Text.trimBoth Text.isBlank name.toList).map Char.toLower
  if lower.take mark.length = mark then
    let steps := Text.trimBoth Text.isBlank (steps (lower.drop mark.length))
    let parts := Text.splitOn '.' steps
    if [] ∈ parts then none else some (parts.map String.ofList)
  else none

/-- A value at the end of a path. -/
def nest (value : Json) : List String → Json
  | [] => value
  | name :: path => .object [(name, nest value path)]

end Variable

end FleetView
