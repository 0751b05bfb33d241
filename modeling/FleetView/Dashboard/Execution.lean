/-
Carrying out commands for a caller. A caller may act on an object that is there
only by being allowed to act on it, and may bring about only what the caller
could see. A refusal reads like absence, so that nobody learns from a refusal
what is hidden.
-/

import FleetView.Command.Relay
import FleetView.Store.Snapshot

namespace FleetView

/-- The silence entry that a request would lead to, as far as the rules of access
look at it. -/
def SilenceRequest.preview (request : SilenceRequest) (datacenter : String) : Silence :=
  { datacenter
    id := request.entryId
    subscription := request.subscription
    check := request.check
    reason := none
    creator := none
    expire := none
    expireOnResolve := false
    extra := [] }

/-- The client that a request would lead to, as far as the rules of access look at
it. -/
def ClientRequest.preview (request : ClientRequest) (datacenter : String) : Client :=
  { datacenter
    name := request.name
    address := none
    subscriptions := request.subscriptions
    version := none
    lastSeen := none
    extra := [] }

/-- The subscribers that a run of a check is for: those that were asked for, or
all that the check has. -/
def ExecutionRequest.audience (request : ExecutionRequest) (check : Check) : List String :=
  if request.subscribers = [] then check.subscribers else request.subscribers

/-- Kinds of which a caller with a subscription scope must find the object in the
snapshot before acting on it. -/
def Kind.mustBeKnown (kind : Kind) : Bool := kind = .client || kind = .event || kind = .check

namespace Identity

/-- Whether the caller may bring about what an action asks for, given the object
that is there. -/
def mayBringAbout (identity : Identity) (datacenter : String) (action : Action)
    (existing : Option Object) : Bool :=
  match action with
  | .createSilence request =>
    identity.mayActOn (.object (.silence (request.preview datacenter)))
  | .updateClient request =>
    identity.mayActOn (.object (.client (request.preview datacenter)))
  | .issueCheckExecution request =>
    match identity.subscriptions, existing with
    | none, _ => true
    | some allowed, some (.check check) =>
      (request.audience check).all fun name => decide (name ∈ allowed)
    | some _, _ => false
  | action =>
    existing.isSome || identity.subscriptions.isNone || !action.targetKind.mustBeKnown

/-- Whether the caller may have a command carried out. -/
def mayExecute (identity : Identity) (snapshot : Snapshot) (command : Command) : Bool :=
  let existing :=
    snapshot.get? command.action.targetKind command.datacenter command.action.targetKey
  !identity.readonly && identity.mayEnter command.datacenter &&
    existing.all (fun object => identity.mayActOn (.object object)) &&
    identity.mayBringAbout command.datacenter command.action existing

/-- Puts the caller's name into what an action writes: as the creator of a
silence entry, and as a member of the content of a stash. -/
def stamp (identity : Identity) (action : Action) : Action :=
  match identity.username, action with
  | some username, .createSilence request => .createSilence { request with creator := some username }
  | some username, .createStash request =>
    .createStash { request with content := Bag.insert "username" (.string username) request.content }
  | _, action => action

end Identity

/-- Carries out a command for a caller: it is checked, the caller's access is
looked at, the caller's name is put in, and it is relayed. -/
def Command.execute (command : Command) (identity : Identity) (snapshot : Snapshot)
    (backends : List Backend) (policy : Policy) (network : Network) : Relayed :=
  match command.validate policy with
  | .error failure => ⟨[], .error failure⟩
  | .ok () =>
    if identity.mayExecute snapshot command then
      { command with action := identity.stamp command.action : Command }.dispatch
        backends policy network
    else ⟨[], .error (.notFound command.action.targetKind.name command.action.targetKey)⟩

end FleetView
