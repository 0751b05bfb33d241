/-
How commands are carried out: each action is one request to the datacenter, and
what becomes of the request is what the caller is told.
-/

import FleetView.Command.Validation

namespace FleetView

/-- The client that a request would put in place. Version and time are for the
datacenter to fill in. -/
def ClientRequest.report (request : ClientRequest) : Report.Client :=
  { name := request.name
    address := request.address
    subscriptions := request.subscriptions
    version := none
    timestamp := none
    extra := request.extra }

/-- The stash that a request would put in place. -/
def StashRequest.report (request : StashRequest) : Report.Stash :=
  { path := request.path, content := request.content, expire := request.expire }

/-- The request that carries out an action. -/
def Action.write : Action → Write
  | .deleteClient name => .deleteClient name
  | .deleteAggregate name => .deleteAggregate name
  | .deleteCheckResult client check => .deleteResult client check
  | .resolveEvent client check => .resolveEvent client check
  | .createSilence request => .createSilence request
  | .clearSilence id => .clearSilence id
  | .createStash request => .putStash request.report
  | .deleteStash path => .deleteStash path
  | .issueCheckExecution request => .runCheck request none
  | .updateClient request => .putClient request.report

/-- A datacenter with a connection to it. -/
structure Backend where
  name : String
  connection : Connection
  /-- How long a poll may take. -/
  pollTimeout : Duration
  deriving DecidableEq, Repr

/-- How long a poll of a datacenter may take. -/
def Datacenter.pollTimeout (datacenter : Datacenter) (policy : Policy) : Duration :=
  datacenter.timeout.getD policy.pollTimeout

/-- How long a request to a datacenter may take: as long as a poll of it or a command may take,
whichever is longer. -/
def Datacenter.limit (datacenter : Datacenter) (policy : Policy) : Duration :=
  (datacenter.pollTimeout policy).longer policy.dispatchTimeout

/-- A datacenter with the connection to it that its entry describes. -/
def Datacenter.backend (datacenter : Datacenter) (policy : Policy) : Backend :=
  { name := datacenter.name
    connection :=
      { base := datacenter.url
        credentials := datacenter.credentials
        agent := some agentName
        limit := some (datacenter.limit policy) }
    pollTimeout := datacenter.pollTimeout policy }

/-- Sets up the connection to a datacenter. -/
def Backend.connect (datacenter : Datacenter) (policy : Policy) (files : Files) :
    Except Failure Backend :=
  match datacenter.tls.refusal? files with
  | some error =>
    .error (.config ("datacenter '" ++ datacenter.name ++ "': " ++ error.message))
  | none => .ok (datacenter.backend policy)

/-- Word of a datacenter that has carried out a command. -/
structure Accepted where
  datacenter : String
  deriving DecidableEq, Repr

/-- What relaying a command came to: the requests that went out, and the result. -/
structure Relayed where
  sent : List Request
  result : Except Failure Accepted

/-- The result of a command, by what is heard of its request. -/
def Command.settle (command : Command) (policy : Policy) (heard : Heard Unit) :
    Except Failure Accepted :=
  match heard with
  | some (.ok ()) => .ok ⟨command.datacenter⟩
  | some (.error error) =>
    .error (.ofApi command.datacenter command.action.targetKind command.action.targetKey error)
  | none =>
    .error (.unreachable command.datacenter
      ("no response within " ++ policy.dispatchTimeout.text ++ "s"))

/-- Hands a command to a datacenter: its request goes out, if there is a way to send
it, and what becomes of the request is the result. -/
def Backend.carry (backend : Backend) (command : Command) (policy : Policy)
    (network : Network) : Relayed :=
  ⟨(backend.connection.writing command.action.write).toOption.toList,
    command.settle policy ((backend.connection.write network command.action.write).heard
      backend.connection.limit policy.dispatchTimeout)⟩

/-- Relays a command to its datacenter. The command is checked first; then the
datacenter must be known; then its answer, or its silence, decides. -/
def Command.dispatch (command : Command) (backends : List Backend) (policy : Policy)
    (network : Network) : Relayed :=
  match command.validate policy with
  | .error failure => ⟨[], .error failure⟩
  | .ok () =>
    match backends.find? (·.name = command.datacenter) with
    | none => ⟨[], .error (.notFound "datacenter" command.datacenter)⟩
    | some backend => backend.carry command policy network

end FleetView
