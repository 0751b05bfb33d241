/-
Patterns for the values of fields. The program has no spans, so that nothing is ever
matched with a pattern; but a text that is no pattern spoils the filter it stands in.
A text is first read into signs, so that what stands behind a backslash is no longer
taken for a mark. The signs are then followed from left to right, with a note of what
is open.
-/

import FleetView.Json.Reader
import FleetView.Unicode.Alphanumeric

namespace FleetView.Cli

namespace Pattern

/-! ### Signs -/

/-- A sign of a pattern. -/
inductive Sign where
  /-- A character as it stands, which may be a mark. -/
  | plain (char : Char)
  /-- A character that stands for itself, however it is written. -/
  | literal (char : Char)
  /-- Any character of a kind. -/
  | kind
  /-- An end of the text. -/
  | bound
  deriving DecidableEq, Repr

namespace Sign

/-- The character that a sign stands for, where it is one of a set. -/
def char? : Sign → Option Char
  | plain char => some char
  | literal char => some char
  | _ => none

/-- What a character behind a backslash stands for. The edges of words are not
among the signs, because values are compared without a look at what is around them. -/
def ofLetter? (char : Char) : Option Sign :=
  match char with
  | 'a' => some (literal '\x07')
  | 'f' => some (literal '\x0c')
  | 't' => some (literal '\t')
  | 'n' => some (literal '\n')
  | 'r' => some (literal '\r')
  | 'v' => some (literal '\x0b')
  | 'A' => some bound
  | 'z' => some bound
  | _ =>
    if "dDsSwW".toList.contains char then some kind
    else if char.toNat < 0x80 && !char.isAlphanum && char != '<' && char != '>' then
      some (literal char)
    else none

/-- The character with a number in hexadecimal digits. -/
def ofNumber? (digits : List Char) : Option Sign := do
  let code := (← digits.mapM JsonText.hexValue?).foldl (fun code digit => code * 16 + digit) 0
  if code.isValidChar then some (literal (Char.ofNat code)) else none

/-- The characters of a class that has a letter for its name. -/
def ofClass? (name : Char) : Option Sign :=
  if "CLMNPSZ".toList.contains name.toUpper then some kind else none

end Sign

open Sign

/-- Reads a text into signs, if what stands behind each backslash makes sense. -/
def signs? : List Char → Option (List Sign)
  | [] => some []
  | '\\' :: rest =>
    match rest with
    | 'x' :: a :: b :: rest => do
      let sign ← ofNumber? [a, b]
      some (sign :: (← signs? rest))
    | 'u' :: a :: b :: c :: d :: rest => do
      let sign ← ofNumber? [a, b, c, d]
      some (sign :: (← signs? rest))
    | 'U' :: a :: b :: c :: d :: e :: f :: g :: h :: rest => do
      let sign ← ofNumber? [a, b, c, d, e, f, g, h]
      some (sign :: (← signs? rest))
    | 'p' :: name :: rest => do
      let sign ← ofClass? name
      some (sign :: (← signs? rest))
    | 'P' :: name :: rest => do
      let sign ← ofClass? name
      some (sign :: (← signs? rest))
    | letter :: rest => do
      let sign ← ofLetter? letter
      some (sign :: (← signs? rest))
    | [] => none
  | char :: rest => do some (plain char :: (← signs? rest))

/-! ### Places -/

/-- How far a set has been read. -/
inductive SetSpot where
  /-- Up to the bracket that opens it. -/
  | bracket
  /-- Up to the mark that turns it into all else. -/
  | negation
  /-- Up to a hyphen at its front. -/
  | hyphen
  /-- Up to the end of a member. -/
  | members
  /-- Up to a sign that may be a member, or the start of a range or of a mark. -/
  | sign (sign : Sign)
  /-- Up to a hyphen behind such a sign. -/
  | range (first : Sign)
  deriving DecidableEq, Repr

/-- What stands before a place in a pattern. -/
inductive Spot where
  /-- Nothing that could be repeated. -/
  | start
  /-- Something that can be repeated. -/
  | behind
  /-- The parenthesis that opens a group. -/
  | group
  /-- A question mark behind the parenthesis. -/
  | question
  /-- The letter before the name of a group. -/
  | letter
  /-- A part of the name of a group. -/
  | name (read : List Char)
  /-- Switches of a group. -/
  | switches (seen : List Char)
  /-- A part of a set. -/
  | set (spot : SetSpot)
  deriving DecidableEq, Repr

/-- What is known at a place in a pattern. -/
structure State where
  /-- How many groups are open. -/
  groups : Nat
  /-- The names that are given to groups. -/
  names : List (List Char)
  /-- How many sets are open, one in the other. -/
  sets : Nat
  spot : Spot
  deriving DecidableEq, Repr

namespace State

/-- The state before a pattern. -/
def initial : State := ⟨0, [], 0, .start⟩

/-- Whether a pattern can end in a state. -/
def isFinal (state : State) : Bool :=
  state.groups == 0 && (state.spot == .start || state.spot == .behind)

/-- The state with something else before the place. -/
def withSpot (state : State) (spot : Spot) : State := { state with spot := spot }

/-- The state inside one more group. -/
def inGroup (state : State) : State := { state with groups := state.groups + 1, spot := .start }

/-! ### Groups -/

/-- The state behind a sign between the heads of groups and the sets. There must be
something before a sign of repetition. Curly brackets would end the field, so that no
count can be closed. -/
def stepPlain? (state : State) (sign : Sign) : Option State :=
  match sign with
  | plain '(' => some (state.withSpot .group)
  | plain ')' =>
    if state.groups = 0 then none
    else some { state with groups := state.groups - 1, spot := .behind }
  | plain '|' => some (state.withSpot .start)
  | plain '[' => some { state with sets := 1, spot := .set .bracket }
  | plain '\x7b' => none
  | plain char =>
    if "*+?".toList.contains char ∧ state.spot ≠ .behind then none
    else some (state.withSpot .behind)
  | _ => some (state.withSpot .behind)

/-- Whether a character can be the next one in the name of a group. -/
def isNameChar (read : List Char) (char : Char) : Bool :=
  char == '_' ||
    if read = [] then Unicode.isAlphanumeric char && !char.isDigit
    else char == '.' || char == '[' || char == ']' || Unicode.isAlphanumeric char

/-- The state behind a sign in the name of a group. No name is given twice. -/
def stepName? (state : State) (read : List Char) (sign : Sign) : Option State :=
  match sign with
  | plain '>' =>
    if read = [] ∨ state.names.contains read then none
    else some { state with names := read :: state.names }.inGroup
  | plain char =>
    if isNameChar read char then some (state.withSpot (.name (read ++ [char]))) else none
  | _ => none

/-- The state behind a sign among the switches of a group. No switch is named twice,
and one is named behind the sign that turns switches off. -/
def stepSwitches? (state : State) (seen : List Char) (sign : Sign) : Option State :=
  match sign with
  | plain ')' =>
    if seen = [] ∨ seen.getLast? = some '-' then none else some (state.withSpot .start)
  | plain ':' => if seen.getLast? = some '-' then none else some state.inGroup
  | plain char =>
    if "imsUuRx-".toList.contains char ∧ char ∉ seen then
      some (state.withSpot (.switches (seen ++ [char])))
    else none
  | _ => none

/-! ### Sets -/

/-- The state behind a set. -/
def leaveSet (state : State) : State :=
  if state.sets ≤ 1 then { state with sets := 0, spot := .behind }
  else { state with sets := state.sets - 1, spot := .set .members }

/-- The state behind a sign before which a member has ended. -/
def stepMember (state : State) (sign : Sign) : State :=
  if sign = plain '[' then { state with sets := state.sets + 1, spot := .set .bracket }
  else if sign = plain ']' then state.leaveSet
  else state.withSpot (.set (.sign sign))

/-- Whether two signs are a mark between sets. -/
def isSetMark (first second : Sign) : Bool :=
  first == second && [plain '&', plain '-', plain '~'].contains first

/-- Whether two signs are the ends of a range. -/
def isRange (first last : Sign) : Bool :=
  match first.char?, last.char? with
  | some first, some last => first ≤ last
  | _, _ => false

/-- The state behind a sign in a set. A bracket that would close an empty set is a
member of it, and so is a hyphen at its front or at its end. -/
def stepSet? (state : State) (spot : SetSpot) (sign : Sign) : Option State :=
  match spot, sign with
  | .bracket, plain '^' => some (state.withSpot (.set .negation))
  | .bracket, plain '-' => some (state.withSpot (.set .hyphen))
  | .negation, plain '-' => some (state.withSpot (.set .hyphen))
  | .hyphen, plain '-' => some (state.withSpot (.set .hyphen))
  | .bracket, plain ']' => some (state.withSpot (.set .members))
  | .negation, plain ']' => some (state.withSpot (.set .members))
  | .sign first, sign =>
    if isSetMark first sign then some (state.withSpot (.set .members))
    else if first = bound then none
    else if sign = plain '-' then some (state.withSpot (.set (.range first)))
    else some (state.stepMember sign)
  | .range _, plain ']' => some state.leaveSet
  | .range _, plain '-' => some (state.withSpot (.set .members))
  | .range first, last => if isRange first last then some (state.withSpot (.set .members)) else none
  | _, sign => some (state.stepMember sign)

/-! ### The whole -/

/-- The state behind a sign. -/
def step? (state : State) (sign : Sign) : Option State :=
  match state.spot with
  | .start => state.stepPlain? sign
  | .behind => state.stepPlain? sign
  | .group =>
    if sign = plain '?' then some (state.withSpot .question) else state.inGroup.stepPlain? sign
  | .question =>
    if sign = plain 'P' then some (state.withSpot .letter)
    else if sign = plain '<' then some (state.withSpot (.name []))
    else state.stepSwitches? [] sign
  | .letter => if sign = plain '<' then some (state.withSpot (.name [])) else none
  | .name read => state.stepName? read sign
  | .switches seen => state.stepSwitches? seen sign
  | .set spot => state.stepSet? spot sign

end State

end Pattern

/-- Whether a text is a pattern. -/
def isPattern (text : List Char) : Bool :=
  (((Pattern.signs? text).bind (·.foldlM Pattern.State.step? .initial)).any
    Pattern.State.isFinal)

end FleetView.Cli
