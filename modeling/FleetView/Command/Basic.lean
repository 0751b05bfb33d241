/-
Commands: everything that can be asked of a datacenter beyond reading. Each
command names the datacenter that it goes to and acts on one object there, its
target.
-/

import FleetView.Command.Request
import FleetView.Object.Basic

namespace FleetView

/-- What a command asks for. -/
inductive Action where
  | deleteClient (name : String)
  | deleteAggregate (name : String)
  | deleteCheckResult (client check : String)
  | resolveEvent (client check : String)
  | createSilence (request : SilenceRequest)
  | clearSilence (id : String)
  | createStash (request : StashRequest)
  | deleteStash (path : String)
  | issueCheckExecution (request : ExecutionRequest)
  | updateClient (request : ClientRequest)
  deriving DecidableEq

/-- An action and the datacenter that is to carry it out. -/
structure Command where
  datacenter : String
  action : Action
  deriving DecidableEq

/-- The id of the silence entry that a request leads to. -/
def SilenceRequest.entryId (request : SilenceRequest) : String :=
  Silence.entryId request.subscription request.check

namespace Action

/-- The name of an action. -/
def name : Action → String
  | .deleteClient _ => "delete_client"
  | .deleteAggregate _ => "delete_aggregate"
  | .deleteCheckResult _ _ => "delete_check_result"
  | .resolveEvent _ _ => "resolve_event"
  | .createSilence _ => "create_silence"
  | .clearSilence _ => "clear_silence"
  | .createStash _ => "create_stash"
  | .deleteStash _ => "delete_stash"
  | .issueCheckExecution _ => "issue_check_execution"
  | .updateClient _ => "update_client"

/-- The kind of the object that an action is about. -/
def targetKind : Action → Kind
  | .deleteClient _ | .updateClient _ => .client
  | .deleteAggregate _ => .aggregate
  | .deleteCheckResult _ _ | .resolveEvent _ _ => .event
  | .createSilence _ | .clearSilence _ => .silence
  | .createStash _ | .deleteStash _ => .stash
  | .issueCheckExecution _ => .check

/-- The key of the object that an action is about. -/
def targetKey : Action → String
  | .deleteClient name => name
  | .updateClient request => request.name
  | .deleteAggregate name => name
  | .deleteCheckResult client check => Event.keyOf client check
  | .resolveEvent client check => Event.keyOf client check
  | .createSilence request => request.entryId
  | .clearSilence id => id
  | .createStash request => request.path
  | .deleteStash path => path
  | .issueCheckExecution request => request.check

end Action

end FleetView
