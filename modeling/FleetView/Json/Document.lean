/-
What a JSON text spells out, flaws included. A text is read once into a
document; whatever is wrong with it stays in the document at the place where it
was met. A document can then be walked in two ways. The strict walk is taken
where the content is wanted and stops at the first flaw in the order of the
text. The lenient walk is taken where a member is passed over: it minds the
shape of the text only, so numbers out of range, strings that stand for no
text, and any depth of nesting go unnoticed.
-/

import FleetView.Json.Printer

namespace FleetView

/-- What can be wrong with a JSON text. -/
inductive Flaw where
  | endInValue
  /-- The text ends inside a word or a numeral. -/
  | endInWord
  | endInObject
  | endInList
  | endInString
  | noValue
  | noIdent
  | noColon
  | noListEnd
  | noObjectEnd
  | trailingComma
  | trailingCharacters
  | keyNotString
  | invalidNumber
  | numberOutOfRange
  | invalidEscape
  | loneSurrogate
  | cutSurrogate
  | controlCharacter
  | tooDeep
  deriving DecidableEq, Repr

/-- The wording of a flaw. -/
def Flaw.message : Flaw → String
  | .endInValue | .endInWord => "EOF while parsing a value"
  | .endInObject => "EOF while parsing an object"
  | .endInList => "EOF while parsing a list"
  | .endInString => "EOF while parsing a string"
  | .noValue => "expected value"
  | .noIdent => "expected ident"
  | .noColon => "expected `:`"
  | .noListEnd => "expected `,` or `]`"
  | .noObjectEnd => "expected `,` or `\x7d`"
  | .trailingComma => "trailing comma"
  | .trailingCharacters => "trailing characters"
  | .keyNotString => "key must be a string"
  | .invalidNumber => "invalid number"
  | .numberOutOfRange => "number out of range"
  | .invalidEscape => "invalid escape"
  | .loneSurrogate => "lone leading surrogate in hex escape"
  | .cutSurrogate => "unexpected end of hex escape"
  | .controlCharacter => "control character (\\u0000-\\u001F) found while parsing a string"
  | .tooDeep => "recursion limit exceeded"

/-- What a value looks like to someone who wanted something else. -/
inductive Found where
  | null
  | bool (value : Bool)
  | number (value : Number)
  | string (text : String)
  | sequence
  | map
  | unitVariant
  deriving DecidableEq, Repr

/-- How an array or an object ends. -/
inductive Ending where
  | closed
  /-- A comma stands right before the closing bracket. -/
  | trailingComma
  /-- Something else stands where a comma or the closing bracket should. -/
  | noSeparator
  /-- The text ends where a comma or the closing bracket should stand. -/
  | cutOff
  /-- The text ends after a comma of an object. -/
  | cutOffAfterComma
  /-- Something else stands where a member's name should. -/
  | notAName (seen : Except Flaw Found)
  /-- A member's name cannot be read to its end. -/
  | brokenName (strict lenient : Flaw)

/-- What a strict walk objects to at the end of an array. -/
def Ending.inList : Ending → Option Flaw
  | .closed => none
  | .trailingComma => some .trailingComma
  | .noSeparator => some .noListEnd
  | _ => some .endInList

/-- What a strict walk objects to at the end of an object. -/
def Ending.inObject : Ending → Option Flaw
  | .closed => none
  | .trailingComma => some .trailingComma
  | .noSeparator => some .noObjectEnd
  | .cutOff => some .endInObject
  | .cutOffAfterComma => some .endInValue
  | .notAName _ => some .keyNotString
  | .brokenName strict _ => some strict

/-- What a lenient walk objects to at the end of an array. -/
def Ending.inSkippedList : Ending → Option Flaw
  | .closed => none
  | .trailingComma => some .noValue
  | .noSeparator => some .noListEnd
  | _ => some .endInList

/-- What a lenient walk objects to at the end of an object. -/
def Ending.inSkippedObject : Ending → Option Flaw
  | .closed => none
  | .trailingComma => some .keyNotString
  | .noSeparator => some .noObjectEnd
  | .cutOff => some .endInObject
  | .cutOffAfterComma => some .endInObject
  | .notAName _ => some .keyNotString
  | .brokenName _ lenient => some lenient

/-- A JSON text as a tree. -/
inductive Document where
  | null
  | bool (value : Bool)
  | number (value : Number)
  /-- A numeral beyond the largest double. -/
  | hugeNumber
  | string (text : String)
  /-- A string that is closed but stands for no text. -/
  | badString (flaw : Flaw)
  | array (items : List Document) (ending : Ending)
  /-- The name of a member may be a string that stands for no text. -/
  | object (members : List (Except Flaw String × Document)) (ending : Ending)
  /-- An array or an object nested deeper than is followed. -/
  | tooDeep (content : Document)
  /-- No value can be read here; the flaw depends on the walk. -/
  | broken (strict lenient : Flaw)

namespace Document

/-- What a document looks like from outside, as far as that can be read. -/
def found : Document → Except Flaw Found
  | .null => .ok .null
  | .bool value => .ok (.bool value)
  | .number value => .ok (.number value)
  | .hugeNumber => .error .numberOutOfRange
  | .string text => .ok (.string text)
  | .badString flaw => .error flaw
  | .array _ _ => .ok .sequence
  | .object _ _ => .ok .map
  | .tooDeep content => content.found
  | .broken strict _ => .error strict

/-! ### The strict walk -/

/-- Refuses when there is a flaw. -/
def clear (flaw : Option Flaw) : Except Flaw Unit :=
  match flaw with
  | none => .ok ()
  | some flaw => .error flaw

mutual

/-- The value a document stands for. -/
def toJson : Document → Except Flaw Json
  | .null => .ok .null
  | .bool value => .ok (.bool value)
  | .number value => .ok (.number value)
  | .hugeNumber => .error .numberOutOfRange
  | .string text => .ok (.string text)
  | .badString flaw => .error flaw
  | .array items ending => do
    let items ← toJsonItems items
    clear ending.inList
    .ok (.array items)
  | .object members ending => do
    let members ← toJsonMembers members
    clear ending.inObject
    .ok (.object (Bag.ofMembers members))
  | .tooDeep _ => .error .tooDeep
  | .broken strict _ => .error strict

/-- The values of items, in order. -/
def toJsonItems : List Document → Except Flaw (List Json)
  | [] => .ok []
  | item :: items => do
    let value ← toJson item
    let values ← toJsonItems items
    .ok (value :: values)

/-- The members of an object, in order. -/
def toJsonMembers : List (Except Flaw String × Document) → Except Flaw (List (String × Json))
  | [] => .ok []
  | (name, content) :: members => do
    let name ← name
    let value ← toJson content
    let rest ← toJsonMembers members
    .ok ((name, value) :: rest)

end

/-! ### The lenient walk -/

mutual

/-- What is wrong with a document that is passed over. -/
def skipped : Document → Option Flaw
  | .array items ending => (skippedItems items).or ending.inSkippedList
  | .object members ending => (skippedMembers members).or ending.inSkippedObject
  | .tooDeep content => skipped content
  | .broken _ lenient => some lenient
  | _ => none

/-- What is wrong with items that are passed over. -/
def skippedItems : List Document → Option Flaw
  | [] => none
  | item :: items => (skipped item).or (skippedItems items)

/-- What is wrong with members that are passed over. -/
def skippedMembers : List (Except Flaw String × Document) → Option Flaw
  | [] => none
  | (_, content) :: members => (skipped content).or (skippedMembers members)

end

/-! ### The document of a value -/

mutual

/-- A value as a document without flaws. -/
def ofJson : Json → Document
  | .null => .null
  | .bool value => .bool value
  | .number value => .number value
  | .string text => .string text
  | .array items => .array (ofJsonItems items) .closed
  | .object members => .object (ofJsonMembers members) .closed

/-- Items as documents. -/
def ofJsonItems : List Json → List Document
  | [] => []
  | item :: items => ofJson item :: ofJsonItems items

/-- Members as documents. -/
def ofJsonMembers : List (String × Json) → List (Except Flaw String × Document)
  | [] => []
  | (name, value) :: members => (.ok name, ofJson value) :: ofJsonMembers members

end

end Document

end FleetView
