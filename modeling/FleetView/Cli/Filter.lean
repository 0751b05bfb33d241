/-
Filters of the log as they are written: clauses with commas between them. A clause
names a source, a span of work, a field, a level, or several of these, all together
as in source[span{field=value}]=level. The program has no spans, and values of fields
are only looked at in spans, so a clause that asks for either keeps nothing.
-/

import FleetView.Cli.Log
import FleetView.Cli.Pattern
import FleetView.Config.Variable
import FleetView.Unicode.Alphanumeric

namespace FleetView.Cli

namespace LogFilter

/-! ### Levels -/

/-- The rank that a word or a number stands for. -/
def rank? (word : List Char) : Option Nat :=
  match Text.lowerAscii (String.ofList word) with
  | "off" => some 0
  | "error" => some 1
  | "warn" => some 2
  | "info" => some 3
  | "debug" => some 4
  | "trace" => some 5
  | _ =>
    (Variable.digits? (if word.head? = some '+' then word.drop 1 else word)).filter (· ≤ 5)

/-- The rank behind a clause. Where a word should be and none is, everything is
kept. -/
def rankBehind? (word : List Char) : Option Nat := if word = [] then some 5 else rank? word

/-! ### Values -/

/-- Whether a text can be the value of a field: a number or a pattern. -/
def isValue (text : List Char) : Bool :=
  match Variable.ofPlain text with
  | .string _ => isPattern text
  | _ => true

/-! ### Clauses -/

/-- What a clause asks for. -/
inductive Clause where
  | rule (rule : LogRule)
  /-- Records that are never made. -/
  | idle
  deriving DecidableEq, Repr

/-- The parts of a clause. -/
structure ClauseParts where
  source : List Char
  /-- Whether a span is named. -/
  span : Bool
  field : Option (List Char)
  level : Option (List Char)
  deriving DecidableEq, Repr

/-- What may stand behind a closing bracket: a mark with a level. -/
def readLevel? : List Char → Option (Option (List Char))
  | [] => some none
  | '=' :: level => some (some level)
  | _ => none

/-- Reads a clause behind an opening bracket. -/
def readBracket? (source text : List Char) : Option ClauseParts := do
  let name := text.takeWhile fun char => char != ']' && char != '\x7b'
  match text.drop name.length with
  | ']' :: rest => some ⟨source, true, none, ← readLevel? rest⟩
  | '\x7b' :: rest =>
    let field := rest.takeWhile (· ≠ '\x7d')
    match rest.drop field.length with
    | '\x7d' :: ']' :: rest =>
      if field = [] then none else some ⟨source, name ≠ [], some field, ← readLevel? rest⟩
    | _ => none
  | _ => none

/-- Whether a clause may start with a character. -/
def startsClause (char : Char) : Bool :=
  char == '-' || char == ':' || char == '_' || Unicode.isAlphanumeric char

/-- Reads a clause without blanks at its ends. -/
def readParts? (text : List Char) : Option ClauseParts :=
  match text with
  | [] => none
  | '[' :: rest => readBracket? [] rest
  | char :: _ =>
    if !startsClause char then none
    else
      let source := text.takeWhile fun char => char != '=' && char != '['
      match text.drop source.length with
      | '[' :: rest => readBracket? source rest
      | '=' :: level => some ⟨source, false, none, some level⟩
      | _ => some ⟨source, false, none, none⟩

/-- What the parts of a clause ask for. A field with a value must have a value that
makes sense. -/
def ClauseParts.clause? (parts : ClauseParts) : Option Clause := do
  let rank ← rankBehind? (parts.level.getD [])
  let rule (field : Option String) : Clause := .rule ⟨String.ofList parts.source, field, rank⟩
  match parts.field.map (Text.splitOn '=') with
  | some (_ :: value :: _) => if isValue value then some .idle else none
  | some (name :: _) => some (if parts.span then .idle else rule (some (String.ofList name)))
  | _ => some (if parts.span then .idle else rule none)

/-- Reads a clause. Blanks at its ends belong to the words beside them, so that no
source fits a clause that starts with one, and no level is a word that ends with
one. A clause that is a word for a level is about all records. -/
def clause? (text : List Char) : Option Clause := do
  let trimmed := Text.trimBoth Text.isBlank text
  let parts ← readParts? trimmed
  let indented := text.head?.any Text.isBlank
  let trailing := (text.reverse.takeWhile Text.isBlank).reverse
  match parts.level with
  | some level =>
    if indented then none else ({ parts with level := some (level ++ trailing) }).clause?
  | none =>
    if indented then some .idle
    else
      match rank? text with
      | some rank => some (.rule (.upTo rank))
      | none =>
        if parts.span ∨ parts.field.isSome then parts.clause?
        else ({ parts with source := parts.source ++ trailing }).clause?

/-! ### The whole -/

/-- The filter that a text spells, if it makes sense. An empty text keeps errors
only. -/
def parse? (text : String) : Option LogFilter := do
  let clauses ← ((Text.splitOn ',' text.toList).filter (· ≠ [])).mapM clause?
  if clauses = [] then some ⟨[.upTo 1]⟩
  else
    some ⟨clauses.filterMap fun clause =>
      match clause with
      | .rule rule => some rule
      | .idle => none⟩

/-- The variable that comes before the arguments. -/
def filterVariable : String := "RUST_LOG"

/-- The filter of a call. -/
def ofCall (verbosity : Nat) (environment : Environment) : LogFilter :=
  ((environment.get? filterVariable).bind parse?).getD (ofVerbosity verbosity)

end LogFilter

end FleetView.Cli
