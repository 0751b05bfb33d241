/-
The log of the program. A record has a level, a source and fields; a filter
decides which records are kept, by their level, their source and their fields.
-/

import FleetView.Json.Basic

namespace FleetView.Cli

/-- How weighty a record is. -/
inductive Level where
  | error
  | warn
  | info
  | debug
  | trace
  deriving DecidableEq, Repr

namespace Level

/-- The name of a level. -/
def name : Level → String
  | .error => "ERROR"
  | .warn => "WARN"
  | .info => "INFO"
  | .debug => "DEBUG"
  | .trace => "TRACE"

/-- How much is kept up to this level. -/
def rank : Level → Nat
  | .error => 1
  | .warn => 2
  | .info => 3
  | .debug => 4
  | .trace => 5

end Level

/-- A record of the log. -/
structure LogRecord where
  level : Level
  /-- The part of the program that speaks. -/
  source : String
  message : String
  fields : List (String × Json)
  deriving DecidableEq

/-- Writes the fields of a record, the message among them. -/
def LogRecord.fieldsJson (record : LogRecord) : Json :=
  .object (("message", .string record.message) :: record.fields)

/-- The names of the fields of a record. -/
def LogRecord.names (record : LogRecord) : List String := "message" :: record.fields.map (·.1)

/-! ### Filters -/

/-- A rule of a filter: what starts with the source, and has the field if one is
named, is kept up to the rank. -/
structure LogRule where
  source : String
  field : Option String
  rank : Nat
  deriving DecidableEq, Repr

namespace LogRule

/-- The rule for all records. -/
def upTo (rank : Nat) : LogRule := ⟨"", none, rank⟩

/-- Whether a rule is about a record. -/
def fits (rule : LogRule) (record : LogRecord) : Bool :=
  rule.source.toList.isPrefixOf record.source.toList && rule.field.all (· ∈ record.names)

/-- Whether a rule gives way to one that is stated later. A longer source counts
first, then that a field is named, then the field that is later in order. -/
def yieldsTo (held rule : LogRule) : Bool :=
  if held.source.length ≠ rule.source.length then held.source.length < rule.source.length
  else
    match held.field, rule.field with
    | some first, some second => !decide (second < first)
    | some _, none => false
    | none, _ => true

end LogRule

/-- Which records are kept. Of the rules that fit a record, the most specific one
decides; without a rule nothing is kept. -/
structure LogFilter where
  rules : List LogRule
  deriving DecidableEq, Repr

namespace LogFilter

/-- The rule that decides about a record. -/
def rule? (filter : LogFilter) (record : LogRecord) : Option LogRule :=
  (filter.rules.filter (·.fits record)).foldl (fun best rule =>
    match best with
    | some held => if held.yieldsTo rule then some rule else some held
    | none => some rule) none

/-- Whether a record is kept. -/
def keeps (filter : LogFilter) (record : LogRecord) : Bool :=
  (filter.rule? record).any fun rule => decide (record.level.rank ≤ rule.rank)

/-- The filter for the number of times that more detail was asked for. -/
def ofVerbosity : Nat → LogFilter
  | 0 => ⟨[.upTo 2]⟩
  | 1 => ⟨[.upTo 3]⟩
  | 2 => ⟨[.upTo 4]⟩
  | _ => ⟨[.upTo 5]⟩

end LogFilter

end FleetView.Cli
