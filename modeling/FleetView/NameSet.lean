/-
Sets of names. A set is the ascending list of its names, so that equal sets are
equal lists and the names come out in order.
-/

import FleetView.Json.Decoder

namespace FleetView

/-- A set of names, as an ascending list. -/
abbrev NameSet := List String

namespace NameSet

/-- Puts a name into the set. -/
def insert (name : String) : NameSet → NameSet
  | [] => [name]
  | other :: rest =>
    if name < other then name :: other :: rest
    else if name = other then other :: rest
    else other :: insert name rest

/-- The set of the names of a list. -/
def ofList (names : List String) : NameSet :=
  names.foldl (fun set name => insert name set) []

/-- Reads a set from a list. -/
def decoder : Decoder NameSet := (Decoder.list .string).map ofList

end NameSet

end FleetView
