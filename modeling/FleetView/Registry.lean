/-
The datacenters and roles that a dashboard knows. A registry exists only where
nothing is wrong with its entries, so its datacenters have distinct names and
its roles speak of known datacenters only.
-/

import FleetView.Api.Connection
import FleetView.Identity

namespace FleetView

/-- A datacenter and how to reach it. -/
structure Datacenter where
  name : String
  url : Url
  credentials : Option Credentials
  tls : Tls
  /-- How long a poll may take, where it differs from the general rule. -/
  timeout : Option Duration
  deriving DecidableEq, Repr

/-- What callers in a role may reach. -/
structure Role where
  name : String
  datacenters : Scope
  subscriptions : Option NameSet
  readonly : Bool
  deriving DecidableEq, Repr

/-- General rules. -/
structure Policy where
  /-- How long to wait between polls; nothing means no polls of its own. -/
  refreshInterval : Duration
  pollTimeout : Duration
  dispatchTimeout : Duration
  requireSilencingReason : Bool
  disableNoExpiration : Bool
  /-- Whether data stays when a poll fails. -/
  retainStaleData : Bool
  deriving DecidableEq, Repr

/-- What can be wrong with the entries of a registry. -/
inductive RegistryFlaw where
  | noDatacenter
  | blankName
  | repeatedName (name : String)
  | badScheme (name scheme : String)
  | repeatedRole (name : String)
  | unknownDatacenter (role datacenter : String)
  deriving DecidableEq, Repr

/-- The wording of a flaw. -/
def RegistryFlaw.message : RegistryFlaw → String
  | .noDatacenter => "at least one datacenter must be configured"
  | .blankName => "datacenter name must not be empty"
  | .repeatedName name => "duplicate datacenter name '" ++ name ++ "'"
  | .badScheme name scheme => "datacenter '" ++ name ++ "': unsupported URL scheme '" ++ scheme ++ "'"
  | .repeatedRole name => "duplicate role name '" ++ name ++ "'"
  | .unknownDatacenter role datacenter =>
    "role '" ++ role ++ "' references unknown datacenter '" ++ datacenter ++ "'"

namespace Registry

/-- The first flaw among datacenters; `seen` are the names met so far. -/
def datacenterFlaw? (seen : List String) : List Datacenter → Option RegistryFlaw
  | [] => none
  | datacenter :: rest =>
    if Text.Blank datacenter.name then some .blankName
    else if datacenter.name ∈ seen then some (.repeatedName datacenter.name)
    else if datacenter.url.scheme ≠ "http" ∧ datacenter.url.scheme ≠ "https" then
      some (.badScheme datacenter.name datacenter.url.scheme)
    else datacenterFlaw? (datacenter.name :: seen) rest

/-- The first datacenter of a scope that is not known. -/
def strangerIn? (known : List String) : Scope → Option String
  | .all => none
  | .only names => names.find? fun name => decide (name ∉ known)

/-- The first flaw among roles; `seen` are the names met so far. -/
def roleFlaw? (known seen : List String) : List Role → Option RegistryFlaw
  | [] => none
  | role :: rest =>
    if role.name ∈ seen then some (.repeatedRole role.name)
    else match strangerIn? known role.datacenters with
      | some datacenter => some (.unknownDatacenter role.name datacenter)
      | none => roleFlaw? known (role.name :: seen) rest

/-- The first flaw of a registry. -/
def flaw? (datacenters : List Datacenter) (roles : List Role) : Option RegistryFlaw :=
  if datacenters = [] then some .noDatacenter
  else (datacenterFlaw? [] datacenters).or (roleFlaw? (datacenters.map (·.name)) [] roles)

end Registry

/-- The datacenters and roles of a dashboard. -/
structure Registry where
  datacenters : List Datacenter
  roles : List Role
  flawless : Registry.flaw? datacenters roles = none

namespace Registry

/-- The registry of some datacenters and roles. -/
def build (datacenters : List Datacenter) (roles : List Role) : Except RegistryFlaw Registry :=
  match found : flaw? datacenters roles with
  | none => .ok ⟨datacenters, roles, found⟩
  | some flaw => .error flaw

/-- The names of the datacenters. -/
def names (registry : Registry) : List String := registry.datacenters.map (·.name)

/-- The datacenter with a name. -/
def datacenter? (registry : Registry) (name : String) : Option Datacenter :=
  registry.datacenters.find? (·.name = name)

/-- The role with a name. -/
def role? (registry : Registry) (name : String) : Option Role :=
  registry.roles.find? (·.name = name)

/-- The caller with a name in a role. A role that is not known gives no access. -/
def identityFor (registry : Registry) (username role : String) : Identity :=
  match registry.role? role with
  | some found => ⟨some username, some role, found.datacenters, found.subscriptions, found.readonly⟩
  | none => { Identity.anonymous with username := some username, role := some role }

end Registry

end FleetView
