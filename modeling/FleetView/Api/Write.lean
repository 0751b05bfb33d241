/-
The requests that change something in a datacenter: what each one is sent to and
what it says.
-/

import FleetView.Api.Network
import FleetView.Command.Request

namespace FleetView

/-- A request to write: its method, the segments behind the base URL, and the
body. -/
structure Write where
  method : Method
  segments : List String
  body : Option Json
  deriving DecidableEq

namespace Write

/-- Creates or replaces a client. -/
def putClient (client : Report.Client) : Write := ⟨.post, ["clients"], some client.toJson⟩

/-- Deletes a client. -/
def deleteClient (name : String) : Write := ⟨.delete, ["clients", name], none⟩

/-- Resolves the event of a check on a client. -/
def resolveEvent (client check : String) : Write :=
  ⟨.post, ["resolve"], some (.object [("check", .string check), ("client", .string client)])⟩

/-- Deletes the result of a check on a client. -/
def deleteResult (client check : String) : Write := ⟨.delete, ["results", client, check], none⟩

/-- Deletes an aggregate. -/
def deleteAggregate (name : String) : Write := ⟨.delete, ["aggregates", name], none⟩

/-- Has a check run, in the name of someone if anyone. -/
def runCheck (request : ExecutionRequest) (creator : Option String) : Write :=
  ⟨.post, ["request"],
    some (.object (request.members ++ Json.memberOfOption "creator" .string creator))⟩

/-- Creates a silence entry. -/
def createSilence (request : SilenceRequest) : Write := ⟨.post, ["silenced"], some request.toJson⟩

/-- Clears a silence entry. -/
def clearSilence (id : String) : Write :=
  ⟨.post, ["silenced", "clear"], some (.object [("id", .string id)])⟩

/-- Creates or replaces a stash. -/
def putStash (stash : Report.Stash) : Write := ⟨.post, ["stashes"], some stash.toJson⟩

/-- The parts of the path of a stash. -/
def stashParts (path : String) : List String :=
  ((Text.splitOn '/' path.toList).filter (· ≠ [])).map String.ofList

/-- Deletes a stash. -/
def deleteStash (path : String) : Write := ⟨.delete, "stashes" :: stashParts path, none⟩

end Write

end FleetView
