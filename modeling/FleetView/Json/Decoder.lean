/-
Decoding: from a JSON document to a value of some type, or to a fault that says
what was wrong. One decoder serves three sources, which differ in a few answers
only: a text that is being read, a value that is at hand, and the merged layers
of a configuration, where the fault also says on which path it was met.
-/

import FleetView.Json.Reader
import FleetView.Text.Quoted
import FleetView.Text.Blank

namespace FleetView

/-- Where a document comes from. -/
inductive Source where
  | text
  | value
  | layers
  deriving DecidableEq, Repr

/-- Why something could not be decoded. -/
inductive Cause where
  | malformed (flaw : Flaw)
  | invalidType (found : Found) (expected : String)
  | invalidValue (found : Found) (expected : String)
  | invalidLength (length : Nat) (expected : String)
  | unknownVariant (name : String) (known : List String)
  | missingField (name : String)
  | duplicateField (name : String)
  | refused (reason : String)
  deriving DecidableEq, Repr

/-- A cause and the names and positions that lead to where it was met. -/
structure Fault where
  cause : Cause
  path : List String
  deriving DecidableEq, Repr

/-! ### Wording -/

/-- What was found, in words. -/
def Found.text : Found → String
  | .null => "null"
  | .bool true => "boolean `true`"
  | .bool false => "boolean `false`"
  | .number (.integer value) => "integer `" ++ (Number.integer value).text ++ "`"
  | .number (.double bits) => "floating point `" ++ (Number.double bits).text ++ "`"
  | .string text => "string " ++ Text.quoted text
  | .sequence => "sequence"
  | .map => "map"
  | .unitVariant => "unit variant"

/-- A name between backquotes. -/
def tick (name : String) : String := "`" ++ name ++ "`"

/-- The choice between names. -/
def choice : List String → String
  | [name] => tick name
  | [one, other] => tick one ++ " or " ++ tick other
  | names => "one of " ++ Text.joinWith ", " (names.map tick)

/-- The message of a cause. -/
def Cause.message : Cause → String
  | .malformed flaw => flaw.message
  | .invalidType found expected => "invalid type: " ++ found.text ++ ", expected " ++ expected
  | .invalidValue found expected => "invalid value: " ++ found.text ++ ", expected " ++ expected
  | .invalidLength length expected =>
    "invalid length " ++ Nat.repr length ++ ", expected " ++ expected
  | .unknownVariant name known =>
    "unknown variant " ++ tick name ++ ", expected " ++ choice known
  | .missingField name => "missing field " ++ tick name
  | .duplicateField name => "duplicate field " ++ tick name
  | .refused reason => reason

/-- The message of a fault. -/
def Fault.message (fault : Fault) : String := fault.cause.message

/-- The fault seen from one step further out. -/
def Fault.under (step : String) (fault : Fault) : Fault :=
  { fault with path := step :: fault.path }

/-- A fault on the spot. -/
def Cause.here (cause : Cause) : Fault := ⟨cause, []⟩

/-- Carries on unless there is a flaw. -/
def unflawed (flaw : Option Flaw) : Except Fault Unit :=
  match flaw with
  | none => .ok ()
  | some flaw => .error (Cause.malformed flaw).here

/-! ### Decoders -/

/-- A way to decode a document from a source. -/
def Decoder (α : Type) : Type := Source → Document → Except Fault α

namespace Decoder

/-- The document is not of the wanted kind. -/
def mismatch {α : Type} (expected : String) (content : Document) : Except Fault α :=
  match content.found with
  | .ok found => .error (Cause.invalidType found expected).here
  | .error flaw => .error (Cause.malformed flaw).here

/-- Changes what is decoded. -/
def map {α β : Type} (change : α → β) (decoder : Decoder α) : Decoder β :=
  fun source content => (decoder source content).map change

/-- Any value. -/
def json : Decoder Json := fun _ content =>
  match content.toJson with
  | .ok value => .ok value
  | .error flaw => .error (Cause.malformed flaw).here

/-- A text. -/
def string : Decoder String := fun _ content =>
  match content with
  | .string text => .ok text
  | other => mismatch "a string" other

/-- A text that names a file. -/
def path : Decoder String := fun _ content =>
  match content with
  | .string text => .ok text
  | other => mismatch "path string" other

/-- A truth value. -/
def bool : Decoder Bool := fun _ content =>
  match content with
  | .bool value => .ok value
  | other => mismatch "a boolean" other

/-- An integer between two bounds. -/
def integer (low high : Int) (expected : String) : Decoder Int := fun _ content =>
  match content with
  | .number (.integer value) =>
    if low ≤ value ∧ value ≤ high then .ok value
    else .error (Cause.invalidValue (.number (.integer value)) expected).here
  | other => mismatch expected other

/-- A natural number of 64 bits. -/
def u64 : Decoder Nat := (integer 0 ((Word.count 64 : Int) - 1) "u64").map Int.toNat

/-- A count. -/
def usize : Decoder Nat := (integer 0 ((Word.count 64 : Int) - 1) "usize").map Int.toNat

/-- An integer of 64 bits. -/
def i64 : Decoder Int := integer (-(Word.count 63 : Int)) ((Word.count 63 : Int) - 1) "i64"

/-- An integer of 32 bits. -/
def i32 : Decoder Int := integer (-(Word.count 31 : Int)) ((Word.count 31 : Int) - 1) "i32"

/-- A value that may be missing; `null` stands for none. -/
def optional {α : Type} (decoder : Decoder α) : Decoder (Option α) := fun source content =>
  match content with
  | .null => .ok none
  | other => (decoder source other).map some

/-- Nothing at all, which is spelled `null`. -/
def unit : Decoder Unit := fun _ content =>
  match content with
  | .null => .ok ()
  | other => mismatch "unit" other

/-- The items of a list, from a position on. -/
def items {α : Type} (decoder : Decoder α) (source : Source) (position : Nat) :
    List Document → Except Fault (List α)
  | [] => .ok []
  | item :: rest => do
    let value ← (decoder source item).mapError (Fault.under (Nat.repr position))
    let values ← items decoder source (position + 1) rest
    .ok (value :: values)

/-- A list. -/
def list {α : Type} (decoder : Decoder α) : Decoder (List α) := fun source content =>
  match content with
  | .array found ending => do
    let values ← items decoder source 0 found
    unflawed ending.inList
    .ok values
  | .tooDeep (.array _ _) => .error (Cause.malformed .tooDeep).here
  | other => mismatch "a sequence" other

/-- A free map. -/
def bag : Decoder Bag := fun _ content =>
  match content with
  | .object members ending =>
    match (Document.object members ending).toJson with
    | .ok (.object bag) => .ok bag
    | .ok _ => .ok []
    | .error flaw => .error (Cause.malformed flaw).here
  | .tooDeep (.object _ _) => .error (Cause.malformed .tooDeep).here
  | other => mismatch "a map" other

/-! ### Choices -/

/-- One of the names a choice is made from. -/
inductive Variant (α : Type) where
  /-- The name alone. -/
  | unit (value : α)
  /-- The name with content. -/
  | content (decoder : Decoder α)

/-- Decodes the content that goes with a name. -/
def Variant.decode {α : Type} (variant : Variant α) (source : Source) (content : Document) :
    Except Fault α :=
  match variant with
  | .unit value => (Decoder.unit source content).map fun _ => value
  | .content decoder => decoder source content

/-- The choice of a name alone. -/
def Variant.alone {α : Type} (variant : Variant α) : Except Fault α :=
  match variant with
  | .unit value => .ok value
  | .content _ => .error (Cause.invalidType .unitVariant "newtype variant").here

/-- Looks a name up. -/
def variant? {α : Type} (variants : List (String × Variant α)) (name : String) :
    Except Fault (Variant α) :=
  match variants.find? (·.1 = name) with
  | some (_, variant) => .ok variant
  | none => .error (Cause.unknownVariant name (variants.map (·.1))).here

/-- What a text has at a choice that does not begin as one. -/
def notAChoice : Document → Flaw
  | .badString flaw => flaw
  | .broken .noIdent _ | .broken .endInWord _ | .broken .invalidNumber _ => .noValue
  | .broken strict _ => strict
  | _ => .noValue

/-- A choice that a text spells as an object with one member. -/
def choiceInText {α : Type} (variants : List (String × Variant α)) :
    List (Except Flaw String × Document) → Ending → Except Fault α
  | [], .notAName (.ok found) => .error (Cause.invalidType found "variant identifier").here
  | [], .notAName (.error flaw) => .error (Cause.malformed flaw).here
  | [], .brokenName strict _ => .error (Cause.malformed strict).here
  | [], .cutOff => .error (Cause.malformed .endInValue).here
  | [], _ => .error (Cause.malformed .noValue).here
  | (.error flaw, _) :: _, _ => .error (Cause.malformed flaw).here
  | (.ok name, content) :: rest, ending => do
    let variant ← variant? variants name
    let value ← variant.decode .text content
    match rest, ending with
    | [], .closed => .ok value
    | [], .cutOff => .error (Cause.malformed .endInObject).here
    | _, _ => .error (Cause.malformed .noValue).here

/-- A choice that a value spells as an object with one member. -/
def choiceInValue {α : Type} (variants : List (String × Variant α)) (source : Source) :
    List (Except Flaw String × Document) → Except Fault α
  | [(.ok name, content)] => do
    let variant ← variant? variants name
    variant.decode source content
  | _ => .error (Cause.invalidValue .map "map with a single key").here

/-- A choice between names, some of which carry content. -/
def oneOf {α : Type} (variants : List (String × Variant α)) : Decoder α := fun source content =>
  match source, content with
  | _, .string name => do
    let variant ← variant? variants name
    variant.alone
  | .text, .object members ending => choiceInText variants members ending
  | .text, .tooDeep (.object _ _) => .error (Cause.malformed .tooDeep).here
  | .text, other => .error (Cause.malformed (notAChoice other)).here
  | source, .object members _ => choiceInValue variants source members
  | _, other => mismatch "string or map" other

/-! ### Running a decoder -/

/-- Decodes a text. Nothing but spaces may follow the value. -/
def fromText {α : Type} (decoder : Decoder α) (text : String) : Except Fault α := do
  let read := Document.read text
  let value ← decoder .text read.content
  if read.trailing then .error (Cause.malformed .trailingCharacters).here else .ok value

/-- Decodes a value. -/
def fromValue {α : Type} (decoder : Decoder α) (value : Json) : Except Fault α :=
  decoder .value (Document.ofJson value.tidy)

end Decoder

end FleetView
