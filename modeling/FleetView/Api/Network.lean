/-
The network as a caller sees it: requests go out, and each one meets an answer,
in full or in part, a connection that ends too early, or silence. What answers is a parameter of
everything that makes calls, so whatever is said about calls holds for every
network.

Time comes in by its order only. A request that nothing more comes for is given up, by its
connection or by its caller, whoever has the shorter limit. Both limits begin with the request,
so two that are equally long run out together, and either may be noticed first: that, too, is
left to the network.
-/

import FleetView.Api.Error
import FleetView.Api.Status
import FleetView.Duration
import FleetView.Text.Base64

namespace FleetView

/-- What a request asks to be done. -/
inductive Method where
  | get
  | post
  | delete
  deriving DecidableEq, Repr

/-- The name of a method. -/
def Method.name : Method → String
  | .get => "GET"
  | .post => "POST"
  | .delete => "DELETE"

/-- A request as it is sent. -/
structure Request where
  method : Method
  /-- Without name and password, which travel as authorization. -/
  url : Url
  /-- One entry for each time that a name and a password are sent. -/
  authorization : List String
  agent : Option String
  /-- The text of a JSON value. -/
  body : Option String
  deriving DecidableEq, Repr

/-- What becomes of a request. An answer begins with its status, and the body comes
behind it. -/
inductive Answer where
  /-- The answer is there in full. -/
  | reply (status : Nat) (body : List UInt8)
  /-- The connection ends within the body, of which this much has come. -/
  | cut (status : Nat) (body : List UInt8)
  /-- No more of the body ever comes than this much. `ahead` is whether the limit of the
  connection is noticed before one of the caller that is equally long. -/
  | stalled (status : Nat) (body : List UInt8) (ahead : Bool)
  /-- The connection ends without an answer. -/
  | closed
  /-- No answer ever comes, with `ahead` as before. -/
  | silence (ahead : Bool)
  deriving DecidableEq, Repr

/-- A network gives each request its answer. -/
abbrev Network := Request → Answer

/-- What becomes of a call: it comes to an end, or it waits until it is given up. -/
inductive Outcome (α : Type) where
  | ended (result : Except ApiError α)
  /-- `ahead` is whether the limit of the connection is noticed before an equally long one. -/
  | waits (ahead : Bool)

/-- What is heard of calls by a caller who does not wait for good: what they have come to, or
nothing in time. -/
abbrev Heard (α : Type) := Option (Except ApiError α)

namespace Outcome

/-- Goes on with what a call brought. -/
def bind {α β : Type} (outcome : Outcome α) (next : α → Except ApiError β) : Outcome β :=
  match outcome with
  | .ended result => .ended (result.bind next)
  | .waits ahead => .waits ahead

/-- A call that its connection gives up after some time, made by a caller who never does. -/
def within {α : Type} (outcome : Outcome α) (limit : Duration) : Except ApiError α :=
  match outcome with
  | .ended result => result
  | .waits _ => .error (.timeout limit.wholeSeconds)

/-- What a caller hears of a call: what it has come to, or nothing, where the caller gives it up
himself. The connection may give it up first, if it has a limit. -/
def heard {α : Type} (outcome : Outcome α) (limit : Option Duration) (patience : Duration) :
    Heard α :=
  match outcome, limit with
  | .ended result, _ => some result
  | .waits ahead, some limit =>
    if limit.precedes patience ahead then some (.error (.timeout limit.wholeSeconds)) else none
  | .waits _, none => none

/-- Where the limit of the connection is noticed first, the caller is told of a timeout. -/
theorem heard_of_precedes {α : Type} {limit patience : Duration} {ahead : Bool}
    (first : limit.precedes patience ahead = true) :
    (waits ahead : Outcome α).heard (some limit) patience =
      some (.error (.timeout limit.wholeSeconds)) :=
  if_pos first

/-- Where it is not, the caller hears nothing. -/
theorem heard_of_not_precedes {α : Type} {limit patience : Duration} {ahead : Bool}
    (later : ¬ limit.precedes patience ahead = true) :
    (waits ahead : Outcome α).heard (some limit) patience = none :=
  if_neg later

end Outcome

/-- What stands in a request for a name and a password. -/
def basicAuthorization (username password : String) : String :=
  "Basic " ++ Text.Base64.encode (Text.Utf8.encode (username ++ ":" ++ password))

namespace Request

/-- The text of the answer's body, or why there is none. -/
def send (network : Network) (request : Request) : Outcome String :=
  match network request with
  | .silence ahead | .stalled _ _ ahead => .waits ahead
  | .closed => .ended (.error (.noConnection request.url.text))
  | .cut _ _ => .ended (.error .brokenBody)
  | .reply status body =>
    let text := Text.Utf8.decodeLossy body
    if HttpStatus.isSuccess status then .ended (.ok text)
    else
      let reason :=
        if Text.Blank text then (HttpStatus.name? status).getD "unknown error" else text
      .ended (.error (.http status reason))

end Request

end FleetView
