/-
Reading a configuration document. A document is a text of lines; the reader cuts
it into the lines that say something and then builds the document up from them.
Any mistake spoils the whole document.
-/

import FleetView.Toml.Table
import FleetView.Toml.Scalar

namespace FleetView.Toml

/-! ### Names -/

/-- The characters of names without marks around them. -/
def isNameChar (char : Char) : Bool := char.isAlphanum || char == '_' || char == '-'

/-- Reads one name. -/
def scanName : Scan String
  | '"' :: rest => scanString .double rest
  | '\'' :: rest => scanString .single rest
  | text =>
    match text.takeWhile isNameChar with
    | [] => none
    | found => some (String.ofList found, text.dropWhile isNameChar)

/-- Reads names with dots between them; the number bounds how many there may
be. -/
def scanKey : Nat → Scan Key
  | 0, _ => none
  | limit + 1, text => do
    let (name, rest) ← scanName (skipGap text)
    match skipGap rest with
    | '.' :: rest =>
      let (key, rest) ← scanKey limit rest
      some (⟨name :: key.path, key.name⟩, rest)
    | rest => some (⟨[], name⟩, rest)

/-- How many names may stand in a row, and how many arrays and tables within each
other. -/
def nestingLimit : Nat := 79

/-! ### Values -/

/-- Reads the items of an array behind its bracket. A comma may follow the last
one. -/
def scanItems (item : Scan Json) : Nat → Scan (List Json)
  | 0, _ => none
  | fuel + 1, text =>
    match skipLines false text with
    | ']' :: rest => some ([], rest)
    | text => do
      let (value, rest) ← item text
      match skipLines false rest with
      | ',' :: rest =>
        let (more, rest) ← scanItems item fuel rest
        some (value :: more, rest)
      | ']' :: rest => some ([value], rest)
      | _ => none

/-- Reads a name and the value given to it. -/
def scanPair (item : Scan Json) (text : List Char) : Option ((Key × Json) × List Char) := do
  let (key, rest) ← scanKey nestingLimit text
  let rest ← skipMark '=' rest
  let (value, rest) ← item (skipGap rest)
  some ((key, value), rest)

/-- Reads the pairs of a table that is written on one line. -/
def scanPairs (item : Scan Json) : Nat → Scan (List (Key × Json))
  | 0, _ => none
  | fuel + 1, text => do
    let (pair, rest) ← scanPair item text
    match skipGap rest with
    | ',' :: rest =>
      let (more, rest) ← scanPairs item fuel rest
      some (pair :: more, rest)
    | '\x7d' :: rest => some ([pair], rest)
    | _ => none

/-- Reads a value; the number bounds how deep it may be nested. -/
def scanValue : Nat → Scan Json
  | depth + 1, '[' :: rest => do
    let (items, rest) ← scanItems (scanValue depth) (rest.length + 1) rest
    some (.array items, rest)
  | depth + 1, '\x7b' :: rest =>
    match skipGap rest with
    | '\x7d' :: rest => some (.object [], rest)
    | rest => do
      let (pairs, rest) ← scanPairs (scanValue depth) (rest.length + 1) rest
      some (← ofPairs pairs, rest)
  | _, text => scanScalar text

/-! ### Lines -/

/-- Reads a line that is not empty, up to its end. -/
def scanLine : Scan Line
  | '[' :: '[' :: rest => do
    let (key, rest) ← scanKey nestingLimit rest
    some (.item key, ← skipMark ']' (← skipMark ']' rest))
  | '[' :: rest => do
    let (key, rest) ← scanKey nestingLimit rest
    some (.table key, ← skipMark ']' rest)
  | text => do
    let ((key, value), rest) ← scanPair (scanValue nestingLimit) text
    some (.entry key value, rest)

/-- Reads all lines. -/
def scanLines : Nat → List Char → Option (List Line)
  | 0, _ => none
  | fuel + 1, text =>
    match skipLines false text with
    | [] => some []
    | text => do
      let (line, rest) ← scanLine text
      let lines ← scanLines fuel (← skipLineEnd rest)
      some (line :: lines)

/-- The value of a document. A mark of byte order may stand in front. -/
def parse (text : String) : Option Json :=
  let chars := match text.toList with
    | '\ufeff' :: rest => rest
    | chars => chars
  (scanLines (chars.length + 1) chars).bind ofLines

end FleetView.Toml
