/-
Reading a JSON text into a document. The reader never fails: it puts what it
cannot make sense of into the document and stops there. Reading goes down into
arrays and objects with a count of the steps left, which starts beyond the
length of the text and so never runs out.
-/

import FleetView.Json.Numeral
import FleetView.Text.Utf8

namespace FleetView

namespace JsonText

/-- The characters that may stand between the parts of a JSON text. -/
def isSpace (char : Char) : Bool :=
  char == ' ' || char == '\n' || char == '\t' || char == '\r'

/-- Drops spaces at the front. -/
def skipSpace (text : List Char) : List Char := text.dropWhile isSpace

/-! ### Strings -/

/-- What one character or escape inside a string contributes. -/
inductive Piece where
  | char (char : Char)
  /-- A code unit given by four hexadecimal digits. -/
  | unit (code : Nat)

/-- How the inside of a string ends. -/
inductive StringEnd where
  | closed (rest : List Char)
  | cutOff
  | control
  /-- A backslash that starts no escape. -/
  | badEscape
  /-- An escape by number without four digits. -/
  | badDigits
  /-- A backslash at the very end. -/
  | cutAfterBackslash

/-- The value of a hexadecimal digit in either case. -/
def hexValue? (char : Char) : Option Nat :=
  let code := char.toNat
  if 48 ≤ code ∧ code ≤ 57 then some (code - 48)
  else if 97 ≤ code ∧ code ≤ 102 then some (code - 87)
  else if 65 ≤ code ∧ code ≤ 70 then some (code - 55)
  else none

/-- The code unit of four hexadecimal digits. -/
def unit? (a b c d : Char) : Option Nat := do
  let a ← hexValue? a
  let b ← hexValue? b
  let c ← hexValue? c
  let d ← hexValue? d
  some (((a * 16 + b) * 16 + c) * 16 + d)

/-- The character of an escape by letter. -/
def letterEscape? (char : Char) : Option Char :=
  match char with
  | '"' => some '"'
  | '\\' => some '\\'
  | '/' => some '/'
  | 'b' => some '\x08'
  | 'f' => some '\x0c'
  | 'n' => some '\n'
  | 'r' => some '\r'
  | 't' => some '\t'
  | _ => none

/-- The flaw of an escape by number that has no four digits: fewer than four
bytes may be left of the text at all. -/
def shortUnit (rest : List Char) : StringEnd :=
  if Text.Utf8.length rest < 4 then .cutOff else .badDigits

/-- Cuts the inside of a string into pieces. -/
def pieces : List Char → List Piece × StringEnd
  | [] => ([], .cutOff)
  | '"' :: rest => ([], .closed rest)
  | '\\' :: 'u' :: a :: b :: c :: d :: rest =>
    match unit? a b c d with
    | some code =>
      let (more, ending) := pieces rest
      (.unit code :: more, ending)
    | none => ([], shortUnit (a :: b :: c :: d :: rest))
  | '\\' :: 'u' :: rest => ([], shortUnit rest)
  | ['\\'] => ([], .cutAfterBackslash)
  | '\\' :: char :: rest =>
    match letterEscape? char with
    | some char =>
      let (more, ending) := pieces rest
      (.char char :: more, ending)
    | none => ([], .badEscape)
  | char :: rest =>
    if char.toNat < 0x20 then ([], .control)
    else
      let (more, ending) := pieces rest
      (.char char :: more, ending)

/-- What is wrong with the end of a string. -/
def StringEnd.flaw? : StringEnd → Option Flaw
  | .closed _ => none
  | .cutOff | .cutAfterBackslash => some .endInString
  | .control => some .controlCharacter
  | .badEscape | .badDigits => some .invalidEscape

/-- What is wrong when a string ends where the second half of a surrogate pair
is due. -/
def StringEnd.flawAfterLead : StringEnd → Flaw
  | .cutOff | .cutAfterBackslash => .endInString
  | .badDigits => .invalidEscape
  | .closed _ | .control | .badEscape => .cutSurrogate

/-- Puts the pieces together. Surrogates must come in pairs; `lead` is the first
half of a pair that has been read. -/
def assemble (ending : StringEnd) : Option Nat → List Piece → Except Flaw (List Char)
  | none, [] =>
    match ending.flaw? with
    | none => .ok []
    | some flaw => .error flaw
  | some _, [] => .error ending.flawAfterLead
  | some _, .char _ :: _ => .error .cutSurrogate
  | none, .char char :: rest => return char :: (← assemble ending none rest)
  | none, .unit code :: rest =>
    if 0xDC00 ≤ code ∧ code ≤ 0xDFFF then .error .loneSurrogate
    else if 0xD800 ≤ code ∧ code ≤ 0xDBFF then assemble ending (some code) rest
    else return Char.ofNat code :: (← assemble ending none rest)
  | some lead, .unit code :: rest =>
    if 0xDC00 ≤ code ∧ code ≤ 0xDFFF then
      return Char.ofNat ((lead - 0xD800) * 0x400 + (code - 0xDC00) + 0x10000) ::
        (← assemble ending none rest)
    else .error .loneSurrogate

/-- What a string that has been opened turns out to be. -/
inductive StringRead where
  | closed (content : Except Flaw String) (rest : List Char)
  | broken (strict lenient : Flaw)

/-- Reads a string after its opening quote. -/
def readString (text : List Char) : StringRead :=
  let (found, ending) := pieces text
  let content := (assemble ending none found).map String.ofList
  match ending with
  | .closed rest => .closed content rest
  | ending =>
    let lenient := ending.flaw?.getD .endInString
    match content with
    | .error strict => .broken strict lenient
    | .ok _ => .broken lenient lenient

/-! ### Values -/

/-- Reads the rest of one of the three words. -/
def readIdent (content : Document) : List Char → List Char → Document × List Char
  | [], rest => (content, rest)
  | _ :: _, [] => (.broken .endInWord .endInWord, [])
  | due :: dues, char :: rest =>
    if char = due then readIdent content dues rest else (.broken .noIdent .noIdent, [])

/-- Reads a numeral. -/
def readNumber (text : List Char) : Document × List Char :=
  match Numeral.scan text with
  | .error flaw => (.broken flaw .invalidNumber, [])
  | .ok (numeral, rest) =>
    match numeral.value? with
    | some value => (.number value, rest)
    | none => (.hugeNumber, rest)

/-- How many arrays and objects may be open at once. -/
def depthLimit : Nat := 127

/-- Marks what is nested too deeply; `depth` arrays and objects are open around
it. -/
def nest (depth : Nat) (content : Document) : Document :=
  if depth < depthLimit then content else .tooDeep content

mutual

/-- Reads a value; answers with the text behind it. -/
def readValue : Nat → Nat → List Char → Document × List Char
  | 0, _, _ => (.broken .endInValue .endInValue, [])
  | fuel + 1, depth, text =>
    match skipSpace text with
    | [] => (.broken .endInValue .endInValue, [])
    | 'n' :: rest => readIdent .null ['u', 'l', 'l'] rest
    | 't' :: rest => readIdent (.bool true) ['r', 'u', 'e'] rest
    | 'f' :: rest => readIdent (.bool false) ['a', 'l', 's', 'e'] rest
    | '"' :: rest =>
      match readString rest with
      | .closed (.ok content) rest => (.string content, rest)
      | .closed (.error flaw) rest => (.badString flaw, rest)
      | .broken strict lenient => (.broken strict lenient, [])
    | '[' :: rest =>
      let (items, ending, rest) := readItems fuel (depth + 1) true rest
      (nest depth (.array items ending), rest)
    | '\x7b' :: rest =>
      let (members, ending, rest) := readMembers fuel (depth + 1) true rest
      (nest depth (.object members ending), rest)
    | char :: rest =>
      if char = '-' ∨ char.isDigit then readNumber (char :: rest)
      else (.broken .noValue .noValue, [])

/-- Reads the items of an array from behind the opening bracket or an item. -/
def readItems : Nat → Nat → Bool → List Char → List Document × Ending × List Char
  | 0, _, _, _ => ([], .cutOff, [])
  | fuel + 1, depth, first, text =>
    match skipSpace text with
    | [] => ([], .cutOff, [])
    | ']' :: rest => ([], .closed, rest)
    | char :: rest =>
      if first then readItem fuel depth (char :: rest)
      else if char = ',' then
        match skipSpace rest with
        | ']' :: rest => ([], .trailingComma, rest)
        | rest => readItem fuel depth rest
      else ([], .noSeparator, [])

/-- Reads an item and those behind it. -/
def readItem : Nat → Nat → List Char → List Document × Ending × List Char
  | 0, _, _ => ([], .cutOff, [])
  | fuel + 1, depth, text =>
    let (item, rest) := readValue fuel depth text
    let (items, ending, rest) := readItems fuel depth false rest
    (item :: items, ending, rest)

/-- Reads the members of an object from behind the opening brace or a member. -/
def readMembers : Nat → Nat → Bool → List Char →
    List (Except Flaw String × Document) × Ending × List Char
  | 0, _, _, _ => ([], .cutOff, [])
  | fuel + 1, depth, first, text =>
    match skipSpace text with
    | [] => ([], .cutOff, [])
    | '\x7d' :: rest => ([], .closed, rest)
    | char :: rest =>
      if first then readMember fuel depth (char :: rest)
      else if char = ',' then
        match skipSpace rest with
        | '\x7d' :: rest => ([], .trailingComma, rest)
        | [] => ([], .cutOffAfterComma, [])
        | rest => readMember fuel depth rest
      else ([], .noSeparator, [])

/-- Reads a member and those behind it. -/
def readMember : Nat → Nat → List Char →
    List (Except Flaw String × Document) × Ending × List Char
  | 0, _, _ => ([], .cutOff, [])
  | fuel + 1, depth, text =>
    match text with
    | '"' :: rest =>
      match readString rest with
      | .broken strict lenient => ([], .brokenName strict lenient, [])
      | .closed name rest =>
        match skipSpace rest with
        | ':' :: rest =>
          let (content, rest) := readValue fuel depth rest
          let (members, ending, rest) := readMembers fuel depth false rest
          ((name, content) :: members, ending, rest)
        | [] => ([(name, .broken .endInObject .endInObject)], .cutOff, [])
        | _ :: _ => ([(name, .broken .noColon .noColon)], .cutOff, [])
    | text => ([], .notAName (readValue fuel depth text).1.found, [])

end

end JsonText

/-- A JSON text, read: what it spells out, and whether more than spaces follow
the value. -/
structure ReadText where
  content : Document
  trailing : Bool

/-- Reads a JSON text. -/
def Document.read (text : String) : ReadText :=
  let chars := text.toList
  let (content, rest) := JsonText.readValue (3 * chars.length + 3) 0 chars
  ⟨content, !(JsonText.skipSpace rest).isEmpty⟩

/-- The value of a JSON text, if nothing is wrong with it. -/
def Json.parse (text : String) : Except Flaw Json := do
  let read := Document.read text
  let value ← read.content.toJson
  if read.trailing then .error .trailingCharacters else .ok value

end FleetView
