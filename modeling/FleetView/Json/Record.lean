/-
Records: decoding an object with known fields. The members are first walked in
the order of the document, and the first one that repeats a field or does not
decode settles the answer; only then are the fields put together, and a missing
one is reported, the first in order of declaration. A record may be open, in
which case the members it does not know are kept in a bag, or closed, in which
case they are passed over and the record may also be spelled as an array of its
fields in order.
-/

import FleetView.Json.Decoder

namespace FleetView

/-- What stands for a field that is absent. -/
structure Absence (α : Type) where
  /-- In an object. -/
  inObject : Option α
  /-- At the end of an array. -/
  inArray : Option α

/-- Items of an array that still have to be given to fields. -/
structure Queue where
  items : List Document
  ending : Ending
  /-- The position of the next item. -/
  position : Nat
  /-- What the array is expected to be. -/
  expected : String

/-- The fields of a record and how to put them together. -/
structure Record (α : Type) where
  /-- The names, in order of declaration. -/
  names : List String
  /-- Whether the content of a named field decodes. -/
  check : String → Source → Document → Except Fault Unit
  /-- Builds the record from the members of an object. -/
  fromMembers : Source → (String → Option Document) → Except Fault α
  /-- Builds the record from the items of an array. -/
  fromItems : Source → Queue → Except Fault (α × Queue)

namespace Record

/-- A record without fields. -/
def of {α : Type} (value : α) : Record α where
  names := []
  check _ _ _ := .ok ()
  fromMembers _ _ := .ok value
  fromItems _ queue := .ok (value, queue)

/-- Takes one field from the members of an object. -/
def member {α : Type} (name : String) (absence : Absence α) (decoder : Decoder α)
    (source : Source) (members : String → Option Document) : Except Fault α :=
  match members name with
  | some content => (decoder source content).mapError (Fault.under name)
  | none =>
    match absence.inObject with
    | some value => .ok value
    | none => .error (Cause.missingField name).here

/-- Takes one field from the front of the queue. -/
def item {α : Type} (absence : Absence α) (decoder : Decoder α) (source : Source) (queue : Queue) :
    Except Fault (α × Queue) :=
  match queue.items with
  | content :: rest => do
    let value ← (decoder source content).mapError (Fault.under (Nat.repr queue.position))
    .ok (value, { queue with items := rest, position := queue.position + 1 })
  | [] => do
    unflawed queue.ending.inList
    match absence.inArray with
    | some value => .ok (value, { queue with position := queue.position + 1 })
    | none => .error (Cause.invalidLength queue.position queue.expected).here

/-- Adds a field behind the others. -/
def field {α β : Type} (record : Record (α → β)) (name : String) (absence : Absence α)
    (decoder : Decoder α) : Record β where
  names := record.names ++ [name]
  check asked source content :=
    if asked = name then
      ((decoder source content).mapError (Fault.under name)).map fun _ => ()
    else record.check asked source content
  fromMembers source members := do
    let build ← record.fromMembers source members
    let value ← member name absence decoder source members
    .ok (build value)
  fromItems source queue := do
    let (build, queue) ← record.fromItems source queue
    let (value, queue) ← item absence decoder source queue
    .ok (build value, queue)

/-- A field that must be there. -/
def required {α β : Type} (record : Record (α → β)) (name : String) (decoder : Decoder α) :
    Record β :=
  record.field name ⟨none, none⟩ decoder

/-- A field that an object may leave out. -/
def optional {α β : Type} (record : Record (Option α → β)) (name : String)
    (decoder : Decoder α) : Record β :=
  record.field name ⟨some none, none⟩ decoder.optional

/-- A field that may be left out, with the value it then has. -/
def defaulted {α β : Type} (record : Record (α → β)) (name : String) (default : α)
    (decoder : Decoder α) : Record β :=
  record.field name ⟨some default, some default⟩ decoder

/-! ### Walking the members of an object -/

/-- What becomes of members that are no field. -/
inductive Strangers where
  | kept
  | passedOver
  deriving DecidableEq

/-- Walks one member that is no field. -/
def stranger (strangers : Strangers) (content : Document) : Except Fault Unit :=
  match strangers with
  | .kept => (Decoder.json .text content).map fun _ => ()
  | .passedOver => unflawed content.skipped

/-- Walks the members in order; `seen` are the fields met so far. -/
def walk {α : Type} (record : Record α) (strangers : Strangers) (source : Source) :
    List String → List (Except Flaw String × Document) → Except Fault Unit
  | _, [] => .ok ()
  | _, (.error flaw, _) :: _ => .error (Cause.malformed flaw).here
  | seen, (.ok name, content) :: rest =>
    if name ∈ record.names then
      if name ∈ seen then .error (Cause.duplicateField name).here
      else do
        record.check name source content
        walk record strangers source (name :: seen) rest
    else do
      stranger strangers content
      walk record strangers source seen rest

/-- The content of a member. -/
def lookup (members : List (Except Flaw String × Document)) (name : String) : Option Document :=
  match members with
  | [] => none
  | (.ok other, content) :: rest => if other = name then some content else lookup rest name
  | (.error _, _) :: rest => lookup rest name

/-- The members that are no field, as a bag. -/
def strangers {α : Type} (record : Record α) (members : List (Except Flaw String × Document)) :
    Bag :=
  Bag.ofMembers <| members.filterMap fun
    | (.ok name, content) =>
      if name ∈ record.names then none else content.toJson.toOption.map fun value => (name, value)
    | (.error _, _) => none

/-- Decodes the members of an object into the fields. -/
def decodeObject {α : Type} (record : Record α) (strangers : Strangers) (source : Source)
    (members : List (Except Flaw String × Document)) (ending : Ending) : Except Fault α := do
  record.walk strangers source [] members
  unflawed ending.inObject
  record.fromMembers source (lookup members)

/-! ### Open and closed records -/

/-- A record that keeps unknown members in a bag. Only an object will do. -/
def opened {α : Type} (title : String) (record : Record (Bag → α)) : Decoder α :=
  fun source content =>
    match content with
    | .object members ending => do
      let build ← record.decodeObject .kept source members ending
      .ok (build (record.strangers members))
    | .tooDeep (.object _ _) => .error (Cause.malformed .tooDeep).here
    | other => Decoder.mismatch ("struct " ++ title) other

/-- What is wrong with what is left of an array when every field has its item. -/
def surplus (source : Source) (queue : Queue) (total : Nat) : Except Fault Unit :=
  match source, queue.items, queue.ending with
  | .text, _ :: _, _ => .error (Cause.malformed .trailingCharacters).here
  | .text, [], .noSeparator => .error (Cause.malformed .trailingCharacters).here
  | .text, [], ending => unflawed ending.inList
  | .value, _ :: _, _ => .error (Cause.invalidLength total "fewer elements in array").here
  | _, _, _ => .ok ()

/-- What an array of the fields is called. -/
def arrayTitle {α : Type} (title : String) (record : Record α) : String :=
  "struct " ++ title ++ " with " ++ Nat.repr record.names.length ++ " element" ++
    (if record.names.length = 1 then "" else "s")

/-- A record that passes over unknown members and may be an array. -/
def closed {α : Type} (title : String) (record : Record α) : Decoder α :=
  fun source content =>
    match content with
    | .object members ending => record.decodeObject .passedOver source members ending
    | .array items ending => do
      let (value, queue) ← record.fromItems source ⟨items, ending, 0, record.arrayTitle title⟩
      surplus source queue items.length
      .ok value
    | .tooDeep (.object _ _) | .tooDeep (.array _ _) => .error (Cause.malformed .tooDeep).here
    | other => Decoder.mismatch ("struct " ++ title) other

end Record

end FleetView
