/-
Callers and what they may reach. Access is denied unless it is granted: a caller
nobody knows anything about sees nothing.
-/

import FleetView.NameSet
import FleetView.Report.Basic

namespace FleetView

/-- The datacenters that a caller may see. -/
inductive Scope where
  | all
  /-- The listed ones and no others. -/
  | only (names : NameSet)
  deriving DecidableEq, Repr

namespace Scope

/-- No datacenter at all. -/
def none : Scope := .only []

/-- Whether a datacenter is in scope. -/
def contains (scope : Scope) (datacenter : String) : Bool :=
  match scope with
  | .all => true
  | .only names => decide (datacenter ∈ names)

/-- Reads a scope. -/
def decoder : Decoder Scope :=
  .oneOf [("all", .unit .all), ("only", .content (NameSet.decoder.map .only))]

/-- Writes a scope. -/
def toJson : Scope → Json
  | .all => .string "all"
  | .only names => .object [("only", .strings names)]

end Scope

/-- A caller. -/
structure Identity where
  username : Option String
  role : Option String
  datacenters : Scope
  /-- Where present, objects that carry subscriptions must share one with it. -/
  subscriptions : Option NameSet
  /-- Such a caller may look and never act. -/
  readonly : Bool
  deriving DecidableEq, Repr

namespace Identity

/-- A caller without any access. -/
def anonymous : Identity := ⟨none, none, .none, none, true⟩

/-- A named caller with access to some datacenters. -/
def named (username : String) (datacenters : Scope) : Identity :=
  ⟨some username, none, datacenters, none, false⟩

/-- Reads a caller. -/
def decoder : Decoder Identity :=
  (Record.of Identity.mk)
    |>.optional "username" .string
    |>.optional "role" .string
    |>.required "datacenters" Scope.decoder
    |>.optional "subscriptions" NameSet.decoder
    |>.required "readonly" .bool
    |>.closed "Identity"

/-- Writes a caller. -/
def toJson (identity : Identity) : Json :=
  .object
    [("username", .text? identity.username),
     ("role", .text? identity.role),
     ("datacenters", identity.datacenters.toJson),
     ("subscriptions", .option .strings identity.subscriptions),
     ("readonly", .bool identity.readonly)]

end Identity

end FleetView
