/-
The values of a configuration document that have no parts: texts, numbers, words
and dates. A reader takes what it can from the front of a text and answers with
the rest, or with nothing when the text breaks the rules.
-/

import FleetView.Json.Reader
import FleetView.Decimal.Nearest
import FleetView.Time.Instant

namespace FleetView.Toml

/-- Takes something from the front of a text. -/
abbrev Scan (α : Type) := List Char → Option (α × List Char)

/-! ### Gaps, comments and ends of lines -/

/-- The characters that part words on one line. -/
def isGap (char : Char) : Bool := char == ' ' || char == '\t'

/-- Drops the gap at the front. -/
def skipGap (text : List Char) : List Char := text.dropWhile isGap

/-- The characters that may stand in comments and, as themselves, in strings. -/
def isPlain (char : Char) : Bool :=
  char == '\t' || (0x20 ≤ char.toNat && char.toNat != 0x7F)

/-- Drops a comment at the front. -/
def skipComment : List Char → List Char
  | '#' :: rest => rest.dropWhile isPlain
  | rest => rest

/-- Drops the end of a line. -/
def skipNewline : List Char → Option (List Char)
  | '\n' :: rest | '\r' :: '\n' :: rest => some rest
  | _ => none

/-- Drops what may stand behind the last word of a line, and its end. -/
def skipLineEnd (text : List Char) : Option (List Char) :=
  match skipComment (skipGap text) with
  | [] => some []
  | rest => skipNewline rest

/-- Drops gaps, ends of lines and comments; `comment` says whether the front is
inside of a comment. -/
def skipLines (comment : Bool) : List Char → List Char
  | [] => []
  | '\n' :: rest | '\r' :: '\n' :: rest => skipLines false rest
  | char :: rest =>
    if comment then if isPlain char then skipLines true rest else char :: rest
    else if isGap char then skipLines false rest
    else if char = '#' then skipLines true rest
    else char :: rest

/-! ### Strings -/

/-- The character with a code, if there is one. -/
def charOf? (code : Nat) : Option Char :=
  if code.isValidChar then some (Char.ofNat code) else none

/-- Reads a number of hexadecimal digits after `value`. -/
def scanHex : Nat → Nat → Scan Nat
  | 0, value, rest => some (value, rest)
  | _ + 1, _, [] => none
  | count + 1, value, char :: rest => do
    let digit ← JsonText.hexValue? char
    scanHex count (value * 16 + digit) rest

/-- Reads an escape behind its backslash. -/
def scanEscape : Scan Char
  | 'b' :: rest => some ('\x08', rest)
  | 't' :: rest => some ('\t', rest)
  | 'n' :: rest => some ('\n', rest)
  | 'f' :: rest => some ('\x0c', rest)
  | 'r' :: rest => some ('\r', rest)
  | '"' :: rest => some ('"', rest)
  | '\\' :: rest => some ('\\', rest)
  | 'u' :: rest => do
    let (code, rest) ← scanHex 4 0 rest
    some (← charOf? code, rest)
  | 'U' :: rest => do
    let (code, rest) ← scanHex 8 0 rest
    some (← charOf? code, rest)
  | _ => none

/-- The two marks around strings. Only between double ones are there escapes. -/
inductive Mark where
  | double
  | single
  deriving DecidableEq

/-- The character of a mark. -/
def Mark.char : Mark → Char
  | .double => '"'
  | .single => '\''

/-- Reads the rest of a string on one line; the first number bounds the steps. -/
def scanShort (mark : Mark) : Nat → Scan (List Char)
  | 0, _ => none
  | _ + 1, [] => none
  | fuel + 1, char :: rest => do
    if char = mark.char then some ([], rest)
    else
      let (char, rest) ←
        if char = '\\' ∧ mark = .double then scanEscape rest
        else if isPlain char then some (char, rest)
        else none
      let (more, rest) ← scanShort mark fuel rest
      some (char :: more, rest)

/-- Drops gaps and ends of lines. -/
def skipSpread : List Char → List Char
  | [] => []
  | '\n' :: rest | '\r' :: '\n' :: rest => skipSpread rest
  | char :: rest => if isGap char then skipSpread rest else char :: rest

/-- What a backslash at the end of a line drops: the line end and all gaps and
line ends after it. -/
def skipFold (text : List Char) : Option (List Char) :=
  (skipNewline (skipGap text)).map skipSpread

/-- Reads the rest of a string that may run over lines; three marks close it, and
one or two more right before them belong to it. -/
def scanLong (mark : Mark) : Nat → Scan (List Char)
  | 0, _ => none
  | _ + 1, [] => none
  | fuel + 1, char :: rest =>
    if char = mark.char then
      let run := (rest.takeWhile (· = char)).length + 1
      let rest := rest.dropWhile (· = char)
      if run < 3 then do
        let (more, rest) ← scanLong mark fuel rest
        some (List.replicate run char ++ more, rest)
      else
        let kept := min (run - 3) 2
        some (List.replicate kept char, List.replicate (run - 3 - kept) char ++ rest)
    else
      match skipNewline (char :: rest) with
      | some rest => do
        let (more, rest) ← scanLong mark fuel rest
        some ('\n' :: more, rest)
      | none =>
        if char = '\\' ∧ mark = .double then
          match skipFold rest with
          | some rest => scanLong mark fuel rest
          | none => do
            let (char, rest) ← scanEscape rest
            let (more, rest) ← scanLong mark fuel rest
            some (char :: more, rest)
        else if isPlain char then do
          let (more, rest) ← scanLong mark fuel rest
          some (char :: more, rest)
        else none

/-- Reads a string on one line behind its first mark. -/
def scanString (mark : Mark) (text : List Char) : Option (String × List Char) :=
  (scanShort mark (text.length + 1) text).map fun (found, rest) => (String.ofList found, rest)

/-- Reads a string of either kind behind its first mark. -/
def scanText (mark : Mark) (text : List Char) : Option (String × List Char) :=
  match text with
  | one :: other :: rest =>
    if one = mark.char ∧ other = mark.char then
      let rest := (skipNewline rest).getD rest
      (scanLong mark (rest.length + 1) rest).map fun (found, rest) => (String.ofList found, rest)
    else scanString mark text
  | _ => scanString mark text

/-! ### Numbers -/

/-- Reads digits behind the first one. A low line may stand between two digits. -/
def moreDigits (accept : Char → Bool) : List Char → List Char × List Char
  | '_' :: char :: rest =>
    if accept char then
      let (more, left) := moreDigits accept rest
      (char :: more, left)
    else ([], '_' :: char :: rest)
  | char :: rest =>
    if accept char then
      let (more, left) := moreDigits accept rest
      (char :: more, left)
    else ([], char :: rest)
  | [] => ([], [])

/-- Reads one digit or more. -/
def scanDigits (accept : Char → Bool) : Scan (List Char)
  | [] => none
  | char :: rest =>
    if accept char then
      let (more, left) := moreDigits accept rest
      some (char :: more, left)
    else none

/-- The value of digits in a base. -/
def digitsValue (base : Nat) (digits : List Char) : Nat :=
  digits.foldl (fun value digit => value * base + (JsonText.hexValue? digit).getD 0) 0

/-- An integer, if it fits into 64 bits. -/
def integer? (value : Int) : Option Json :=
  if Word.holds 64 value then some (.int value) else none

/-- A double with its sign. -/
def double (negative : Bool) (value : Float) : Json :=
  .number (.double (if negative then -value else value).toBits)

/-- Reads an integer in another base than ten. -/
def scanBased (base : Nat) (text : List Char) : Option (Json × List Char) := do
  let (digits, rest) ←
    scanDigits (fun char => (JsonText.hexValue? char).any fun digit => decide (digit < base)) text
  some (← integer? (digitsValue base digits), rest)

/-- Takes a sign, if there is one: whether it is negative. -/
def takeSign : List Char → Bool × List Char
  | '-' :: rest => (true, rest)
  | '+' :: rest => (false, rest)
  | rest => (false, rest)

/-- Reads the digits before the point. A zero at the front stands alone. -/
def scanWhole : Scan (List Char)
  | '0' :: rest => some (['0'], rest)
  | text => scanDigits Char.isDigit text

/-- Reads the digits behind a point, if there is one. -/
def scanFraction : Scan (Option (List Char))
  | '.' :: rest => (scanDigits Char.isDigit rest).map fun (digits, rest) => (some digits, rest)
  | rest => some (none, rest)

/-- Reads an exponent, if there is one. -/
def scanExponent : Scan (Option Int)
  | [] => some (none, [])
  | char :: rest =>
    if char = 'e' ∨ char = 'E' then do
      let (negative, rest) := takeSign rest
      let (digits, rest) ← scanDigits Char.isDigit rest
      let value : Int := digitsValue 10 digits
      some (some (if negative then -value else value), rest)
    else some (none, char :: rest)

/-- Reads a number in base ten behind its sign. A point or an exponent makes it a
double; above all doubles there is none, and below all of them lies the negative
infinity. -/
def scanDecimal (negative : Bool) (text : List Char) : Option (Json × List Char) := do
  let (whole, rest) ← scanWhole text
  let (fraction, rest) ← scanFraction rest
  let (exponent, rest) ← scanExponent rest
  match fraction, exponent with
  | none, none =>
    let value : Int := digitsValue 10 whole
    some (← integer? (if negative then -value else value), rest)
  | fraction, exponent =>
    let digits := fraction.getD []
    let value := Decimal.nearest (digitsValue 10 (whole ++ digits))
      (exponent.getD 0 - digits.length)
    if value.isInf ∧ !negative then none else some (double negative value, rest)

/-- Reads a number. -/
def scanNumber (text : List Char) : Option (Json × List Char) :=
  match text with
  | '0' :: 'x' :: rest => scanBased 16 rest
  | '0' :: 'o' :: rest => scanBased 8 rest
  | '0' :: 'b' :: rest => scanBased 2 rest
  | text =>
    let (negative, rest) := takeSign text
    match rest with
    | 'i' :: 'n' :: 'f' :: rest => some (double negative (1.0 / 0.0), rest)
    | 'n' :: 'a' :: 'n' :: rest => some (double negative (0.0 / 0.0), rest)
    | rest => scanDecimal negative rest

/-! ### Dates and times -/

/-- Reads a number of digits that is at most a bound. -/
def scanPart (count bound : Nat) (text : List Char) : Option (Nat × List Char) :=
  let digits := text.take count
  let value := digitsValue 10 digits
  if digits.length = count ∧ digits.all Char.isDigit ∧ value ≤ bound then
    some (value, text.drop count)
  else none

/-- Drops a character that has to be there. -/
def skipMark (mark : Char) : List Char → Option (List Char)
  | [] => none
  | char :: rest => if char = mark then some rest else none

/-- Drops the fraction of a second, if there is one. -/
def skipFraction : List Char → List Char
  | '.' :: char :: rest => if char.isDigit then rest.dropWhile Char.isDigit else '.' :: char :: rest
  | rest => rest

/-- Reads a time behind its hour. -/
def skipTime (text : List Char) : Option (List Char) := do
  let rest ← skipMark ':' text
  let (_, rest) ← scanPart 2 59 rest
  let rest ← skipMark ':' rest
  let (_, rest) ← scanPart 2 60 rest
  some (skipFraction rest)

/-- Reads an offset, if there is one. -/
def skipOffset : List Char → Option (List Char)
  | [] => some []
  | char :: rest =>
    if char = 'Z' ∨ char = 'z' then some rest
    else if char = '+' ∨ char = '-' then do
      let (_, rest) ← scanPart 2 23 rest
      let rest ← skipMark ':' rest
      let (_, rest) ← scanPart 2 59 rest
      some rest
    else some (char :: rest)

/-- Reads a date behind its year, and a time if one follows. -/
def skipDate (year : Nat) (text : List Char) : Option (List Char) := do
  let rest ← skipMark '-' text
  let (month, rest) ← scanPart 2 12 rest
  let rest ← skipMark '-' rest
  let (day, rest) ← scanPart 2 31 rest
  if !CivilDate.isValid ⟨year, month, day⟩ then none
  else
    match rest with
    | mark :: left =>
      if mark = 'T' ∨ mark = 't' ∨ mark = ' ' then
        match scanPart 2 23 left with
        | some (_, ':' :: left) => do skipOffset (← skipTime (':' :: left))
        | _ => some rest
      else some rest
    | [] => some []

/-- Reads a date, a time or both, where the front of the text looks like it. -/
def skipMoment? (text : List Char) : Option (Option (List Char)) :=
  match scanPart 4 9999 text, scanPart 2 23 text with
  | some (year, '-' :: rest), _ => some (skipDate year ('-' :: rest))
  | _, some (_, ':' :: rest) => some (skipTime (':' :: rest))
  | _, _ => none

/-! ### Values without parts -/

/-- A point in time stands for a map, so no setting takes it. -/
def moment (text : List Char) : Json := .object [("moment", .string (String.ofList text))]

/-- Reads a value that has no parts. -/
def scanScalar (text : List Char) : Option (Json × List Char) :=
  match text with
  | '"' :: rest => (scanText .double rest).map fun (found, rest) => (.string found, rest)
  | '\'' :: rest => (scanText .single rest).map fun (found, rest) => (.string found, rest)
  | 't' :: 'r' :: 'u' :: 'e' :: rest => some (.bool true, rest)
  | 'f' :: 'a' :: 'l' :: 's' :: 'e' :: rest => some (.bool false, rest)
  | text =>
    match skipMoment? text with
    | some moved => moved.map fun rest => (moment (text.take (text.length - rest.length)), rest)
    | none => scanNumber text

end FleetView.Toml
