/-
What a command must satisfy before anything is sent: no name that it needs is
blank, and a silence entry keeps to the policy.
-/

import FleetView.Command.Basic
import FleetView.Error
import FleetView.Registry

namespace FleetView

/-- Why a command is refused before it is sent. -/
inductive CommandFlaw where
  | blank (what : String)
  | silencesNothing
  | noReason
  | endless
  deriving DecidableEq, Repr

/-- The wording of a flaw. -/
def CommandFlaw.message : CommandFlaw → String
  | .blank what => what ++ " must not be empty"
  | .silencesNothing => "a silence needs a subscription or a check"
  | .noReason => "a reason must be provided for every silence entry"
  | .endless => "open-ended silence entries are disallowed"

/-- A text that is missing or blank. -/
def Text.Lacking (text : Option String) : Prop := ∀ found ∈ text, Text.Blank found

instance (text : Option String) : Decidable (Text.Lacking text) :=
  Option.decidableForallMem text

/-- Whether a silence entry has no end of its own. -/
def SilenceRequest.isEndless (request : SilenceRequest) : Bool :=
  !request.expireOnResolve &&
    match request.expire with
    | some seconds => seconds < 1
    | none => true

/-- What is wrong with a request for a silence entry. -/
def SilenceRequest.flaw? (request : SilenceRequest) (policy : Policy) : Option CommandFlaw :=
  if Text.Lacking request.subscription ∧ Text.Lacking request.check then some .silencesNothing
  else if policy.requireSilencingReason ∧ Text.Lacking request.reason then some .noReason
  else if policy.disableNoExpiration ∧ request.isEndless then some .endless
  else none

/-- The names that an action needs, and what each is called. -/
def Action.needs : Action → List (String × String)
  | .deleteClient name => [(name, "client name")]
  | .deleteAggregate name => [(name, "aggregate name")]
  | .deleteCheckResult client check => [(client, "client name"), (check, "check name")]
  | .resolveEvent client check => [(client, "client name"), (check, "check name")]
  | .createSilence _ => []
  | .clearSilence id => [(id, "silence id")]
  | .createStash request => [(request.path, "stash path")]
  | .deleteStash path => [(path, "stash path")]
  | .issueCheckExecution request => [(request.check, "check name")]
  | .updateClient request => [(request.name, "client name")]

/-- What is wrong with a request beyond its names. -/
def Action.requestFlaw? (action : Action) (policy : Policy) : Option CommandFlaw :=
  match action with
  | .createSilence request => request.flaw? policy
  | _ => none

/-- The first of some names that is blank. -/
def blankFlaw? (needs : List (String × String)) : Option CommandFlaw :=
  (needs.find? fun need => decide (Text.Blank need.1)).map fun need => .blank need.2

/-- What is wrong with a command; the datacenter is looked at first. -/
def Command.flaw? (command : Command) (policy : Policy) : Option CommandFlaw :=
  (blankFlaw? ((command.datacenter, "datacenter") :: command.action.needs)).or
    (command.action.requestFlaw? policy)

/-- Lets a command through only if nothing is wrong with it. -/
def Command.validate (command : Command) (policy : Policy) : Except Failure Unit :=
  match command.flaw? policy with
  | none => .ok ()
  | some flaw => .error (.invalidPayload flaw.message)

end FleetView
