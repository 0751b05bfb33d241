/-
Finding objects by name alone. The same name may be there in several
datacenters, and it is for the caller to decide what to make of that.
-/

import FleetView.Store.Snapshot
import FleetView.Error

namespace FleetView

/-- What a name comes to. -/
inductive Resolution where
  | notFound
  | resolved (object : Object)
  /-- Two or more, in the order of the datacenters. -/
  | ambiguous (objects : List Object)
  deriving DecidableEq

namespace Resolution

/-- What a list of matches comes to. -/
def ofMatches : List Object → Resolution
  | [] => .notFound
  | [object] => .resolved object
  | objects => .ambiguous objects

/-- Whether a name is there more than once. -/
def isAmbiguous : Resolution → Bool
  | .ambiguous _ => true
  | _ => false

end Resolution

namespace Snapshot

/-- A match is fine when its datacenter is part of the snapshot. -/
def confirm (snapshot : Snapshot) (kind : Kind) (name : String) (object : Object) :
    Except Failure Object :=
  if object.datacenter = "" ∨ !snapshot.hasDatacenter object.datacenter then
    .error (.internal (kind.name ++ " '" ++ name ++ "' is tagged with unknown datacenter '" ++
      object.datacenter ++ "'"))
  else .ok object

/-- Every object of a kind with a key, in all datacenters. -/
def findByName (snapshot : Snapshot) (kind : Kind) (name : String) :
    Except Failure (List Object) :=
  ((snapshot.list kind).filter (·.key = name)).mapM (snapshot.confirm kind name)

/-- What a name comes to among all objects. -/
def resolve (snapshot : Snapshot) (kind : Kind) (name : String) : Except Failure Resolution :=
  (snapshot.findByName kind name).map .ofMatches

/-- What a name comes to among the objects that a caller may see. -/
def resolveFor (snapshot : Snapshot) (identity : Identity) (kind : Kind) (name : String) :
    Except Failure Resolution :=
  (snapshot.findByName kind name).map fun found =>
    .ofMatches (found.filter fun object => identity.maySee (.object object))

/-- The object under a key, or word that there is none. -/
def getByKey (snapshot : Snapshot) (kind : Kind) (datacenter key : String) :
    Except Failure Object :=
  match snapshot.get? kind datacenter key with
  | some object => .ok object
  | none => .error (.notFound kind.name key)

end Snapshot

end FleetView
