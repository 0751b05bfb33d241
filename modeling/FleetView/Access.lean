/-
Who may see what. A caller sees an object when the object's datacenter is in the
caller's scope and, for a caller with a subscription scope and an object that
carries subscriptions, when the two share a name. Seeing is what every read is
filtered by, and acting is seeing without being bound to read only.
-/

import FleetView.Identity
import FleetView.Status

namespace FleetView

/-- What the rules can decide on: an object, or a datacenter as such. -/
inductive Subject where
  | object (object : Object)
  | datacenter (status : Status)
  deriving DecidableEq

/-- The subscriptions that the rules compare, for kinds that have any. An event
goes by its client's, and by its check's only when the client has none; a
silence for a check alone goes by none. -/
def Object.tags : Object → Option (List String)
  | .check object => some object.subscribers
  | .client object => some object.subscriptions
  | .event object =>
    some (if object.clientSubscriptions = [] then object.checkSubscribers
      else object.clientSubscriptions)
  | .silence object => some object.subscription.toList
  | .subscription object => some [object.name]
  | .aggregate _ => none
  | .stash _ => none

namespace Subject

/-- The name of the subject's kind. -/
def kindName : Subject → String
  | .object held => held.kind.name
  | .datacenter _ => "datacenter"

/-- The datacenter that the subject belongs to. -/
def owner : Subject → String
  | .object held => held.datacenter
  | .datacenter status => status.name

/-- The subscriptions that the rules compare. -/
def tags : Subject → Option (List String)
  | .object held => held.tags
  | .datacenter _ => none

end Subject

namespace Identity

/-- Whether a datacenter is open to the caller. The empty name is no
datacenter. -/
def mayEnter (identity : Identity) (datacenter : String) : Bool :=
  datacenter ≠ "" && identity.datacenters.contains datacenter

/-- Whether a caller with some datacenter and subscription scope may see what
belongs to a datacenter and carries some subscriptions. -/
def sees (identity : Identity) (datacenter : String) (tags : Option (List String)) : Bool :=
  identity.mayEnter datacenter &&
    match identity.subscriptions, tags with
    | some allowed, some carried => carried.any fun name => decide (name ∈ allowed)
    | _, _ => true

/-- Whether the caller may see a subject. -/
def maySee (identity : Identity) (subject : Subject) : Bool :=
  identity.sees subject.owner subject.tags

/-- Whether the caller may issue a command against a subject. -/
def mayActOn (identity : Identity) (subject : Subject) : Bool :=
  !identity.readonly && identity.maySee subject

/-- The objects of one kind that the caller may see, in their order. -/
def filter (identity : Identity) (kind : Kind) (objects : List Object) : List Object :=
  objects.filter fun object => object.kind = kind && identity.maySee (.object object)

end Identity

end FleetView
