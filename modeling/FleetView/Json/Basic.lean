/-
JSON values. An object keeps its members as a list in the order in which they
are written, so a value is also a text up to spacing; the objects that a reader
produces are tidy, which means that their names ascend and none is repeated.
Free maps of JSON values (bags) are tidy lists of members.
-/

namespace FleetView

/-- A number is an exact integer where its text allows, and a double otherwise. -/
inductive Number where
  | integer (value : Int)
  | double (bits : UInt64)
  deriving DecidableEq, Repr

/-- A JSON value. -/
inductive Json where
  | null
  | bool (value : Bool)
  | number (value : Number)
  | string (text : String)
  | array (items : List Json)
  | object (members : List (String × Json))
  deriving Repr, Inhabited

/-- The members of an object that has no fixed fields. -/
abbrev Bag := List (String × Json)

/-! ### Equality is decidable -/

mutual

/-- Decides equality of values. -/
def Json.decEq : (left right : Json) → Decidable (left = right)
  | .null, .null => isTrue rfl
  | .bool a, .bool b => decidable_of_iff (a = b) (by simp)
  | .number a, .number b => decidable_of_iff (a = b) (by simp)
  | .string a, .string b => decidable_of_iff (a = b) (by simp)
  | .array a, .array b =>
    have := Json.decEqItems a b
    decidable_of_iff (a = b) (by simp)
  | .object a, .object b =>
    have := Json.decEqMembers a b
    decidable_of_iff (a = b) (by simp)
  | .null, .bool _ | .null, .number _ | .null, .string _ | .null, .array _ | .null, .object _
  | .bool _, .null | .bool _, .number _ | .bool _, .string _ | .bool _, .array _
  | .bool _, .object _
  | .number _, .null | .number _, .bool _ | .number _, .string _ | .number _, .array _
  | .number _, .object _
  | .string _, .null | .string _, .bool _ | .string _, .number _ | .string _, .array _
  | .string _, .object _
  | .array _, .null | .array _, .bool _ | .array _, .number _ | .array _, .string _
  | .array _, .object _
  | .object _, .null | .object _, .bool _ | .object _, .number _ | .object _, .string _
  | .object _, .array _ => isFalse (by simp)

/-- Decides equality of lists of values. -/
def Json.decEqItems : (left right : List Json) → Decidable (left = right)
  | [], [] => isTrue rfl
  | [], _ :: _ | _ :: _, [] => isFalse (by simp)
  | a :: as, b :: bs =>
    have := Json.decEq a b
    have := Json.decEqItems as bs
    decidable_of_iff (a = b ∧ as = bs) (by simp)

/-- Decides equality of lists of members. -/
def Json.decEqMembers : (left right : List (String × Json)) → Decidable (left = right)
  | [], [] => isTrue rfl
  | [], _ :: _ | _ :: _, [] => isFalse (by simp)
  | (m, a) :: as, (n, b) :: bs =>
    have := Json.decEq a b
    have := Json.decEqMembers as bs
    decidable_of_iff ((m = n ∧ a = b) ∧ as = bs) (by simp)

end

instance : DecidableEq Json := Json.decEq

/-! ### Bags are kept in order and without repetition -/

namespace Bag

/-- Puts a member in its place; a member of the same name is replaced. -/
def insert (name : String) (value : Json) : Bag → Bag
  | [] => [(name, value)]
  | (other, held) :: rest =>
    if name < other then (name, value) :: (other, held) :: rest
    else if name = other then (name, value) :: rest
    else (other, held) :: insert name value rest

/-- The bag that members in any order amount to; the last of a name counts. -/
def ofMembers (members : List (String × Json)) : Bag :=
  members.foldl (fun bag member => bag.insert member.1 member.2) []

/-- The value under a name. -/
def get? (bag : Bag) (name : String) : Option Json :=
  (bag.find? (·.1 = name)).map (·.2)

/-- The names ascend, so none occurs twice. -/
def Sorted (bag : Bag) : Prop := bag.Pairwise (·.1 < ·.1)

end Bag

/-! ### Tidy values -/

mutual

/-- The same value with every object in order and the last of repeated members
kept. -/
def Json.tidy : Json → Json
  | .array items => .array (Json.tidyItems items)
  | .object members => .object (Bag.ofMembers (Json.tidyMembers members))
  | other => other

/-- Tidies every item. -/
def Json.tidyItems : List Json → List Json
  | [] => []
  | item :: items => item.tidy :: Json.tidyItems items

/-- Tidies every member's value. -/
def Json.tidyMembers : List (String × Json) → List (String × Json)
  | [] => []
  | (name, value) :: members => (name, value.tidy) :: Json.tidyMembers members

end

/-! ### Small constructors -/

namespace Json

/-- A whole number. -/
def int (value : Int) : Json := .number (.integer value)

/-- A count. -/
def nat (value : Nat) : Json := .number (.integer value)

/-- A list of texts. -/
def strings (texts : List String) : Json := .array (texts.map .string)

/-- A value that may be missing; `null` stands for none. -/
def option {α : Type} (encode : α → Json) : Option α → Json
  | none => .null
  | some value => encode value

/-- The member under a name, in an object whose names differ. -/
def field? (value : Json) (name : String) : Option Json :=
  match value with
  | .object members => Bag.get? members name
  | _ => none

end Json

end FleetView
