/-
What a caller asks for in the commands that carry more than a name. A member
that is missing is left out again when such a request is written, except where a
field always has a value.
-/

import FleetView.Report.Basic

namespace FleetView

/-- Asks for a silence entry. -/
structure SilenceRequest where
  subscription : Option String
  check : Option String
  reason : Option String
  creator : Option String
  /-- Seconds until the entry ends. -/
  expire : Option Int
  expireOnResolve : Bool
  deriving DecidableEq

/-- Asks for a stash. -/
structure StashRequest where
  path : String
  content : Bag
  expire : Option Int
  deriving DecidableEq

/-- Asks for a check to be run now. Without subscribers it runs for all that the
check has. -/
structure ExecutionRequest where
  check : String
  subscribers : List String
  reason : Option String
  deriving DecidableEq

/-- Asks for a client to be created or replaced. -/
structure ClientRequest where
  name : String
  address : Option String
  subscriptions : List String
  extra : Bag
  deriving DecidableEq

/-! ### Reading -/

/-- Reads a request for a silence entry. -/
def SilenceRequest.decoder : Decoder SilenceRequest :=
  (Record.of SilenceRequest.mk)
    |>.defaulted "subscription" none (.optional .string)
    |>.defaulted "check" none (.optional .string)
    |>.defaulted "reason" none (.optional .string)
    |>.defaulted "creator" none (.optional .string)
    |>.defaulted "expire" none (.optional .i64)
    |>.defaulted "expire_on_resolve" false .bool
    |>.closed "CreateSilenceRequest"

/-- Reads a request for a stash. -/
def StashRequest.decoder : Decoder StashRequest :=
  (Record.of StashRequest.mk)
    |>.required "path" .string
    |>.defaulted "content" [] .bag
    |>.defaulted "expire" none (.optional .i64)
    |>.closed "CreateStashRequest"

/-- Reads a request for a run of a check. -/
def ExecutionRequest.decoder : Decoder ExecutionRequest :=
  (Record.of ExecutionRequest.mk)
    |>.required "check" .string
    |>.defaulted "subscribers" [] (.list .string)
    |>.defaulted "reason" none (.optional .string)
    |>.closed "CheckExecutionRequest"

/-- Reads a request for a client. -/
def ClientRequest.decoder : Decoder ClientRequest :=
  (Record.of ClientRequest.mk)
    |>.required "name" .string
    |>.defaulted "address" none (.optional .string)
    |>.defaulted "subscriptions" [] (.list .string)
    |>.opened "UpdateClientRequest"

/-! ### Writing -/

/-- Writes a request for a silence entry. -/
def SilenceRequest.toJson (request : SilenceRequest) : Json :=
  .object <|
    Json.memberOfOption "subscription" .string request.subscription ++
    Json.memberOfOption "check" .string request.check ++
    Json.memberOfOption "reason" .string request.reason ++
    Json.memberOfOption "creator" .string request.creator ++
    Json.memberOfOption "expire" .int request.expire ++
    [("expire_on_resolve", .bool request.expireOnResolve)]

/-- Writes a request for a stash. -/
def StashRequest.toJson (request : StashRequest) : Json :=
  .object <|
    [("path", .string request.path), ("content", .object request.content)] ++
    Json.memberOfOption "expire" .int request.expire

/-- The members of a request for a run of a check. -/
def ExecutionRequest.members (request : ExecutionRequest) : List (String × Json) :=
  [("check", .string request.check)] ++
    (if request.subscribers = [] then [] else [("subscribers", .strings request.subscribers)]) ++
    Json.memberOfOption "reason" .string request.reason

/-- Writes a request for a run of a check. -/
def ExecutionRequest.toJson (request : ExecutionRequest) : Json := .object request.members

/-- Writes a request for a client. -/
def ClientRequest.toJson (request : ClientRequest) : Json :=
  .object <|
    [("name", .string request.name)] ++
    Json.memberOfOption "address" .string request.address ++
    [("subscriptions", .strings request.subscriptions)] ++ request.extra

end FleetView
