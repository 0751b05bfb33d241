/-
What can go wrong when a datacenter is called, from building the connection to
reading the answer.
-/

import FleetView.Url.Parser

namespace FleetView

/-- Why a call failed. -/
inductive ApiError where
  /-- The connection ended without an answer. -/
  | noConnection (url : String)
  /-- The URL is not one that calls are made with. -/
  | notCallable (url : String)
  /-- The connection ended within the answer. -/
  | brokenBody
  | invalidUrl (flaw : UrlFlaw)
  | timeout (seconds : Nat)
  | tls (reason : String)
  /-- The datacenter answered with a status other than success. -/
  | http (status : Nat) (reason : String)
  /-- The answer is not what it should be. -/
  | unreadable (reason body : String)
  deriving DecidableEq, Repr

namespace ApiError

/-- The wording of an error. -/
def message : ApiError → String
  | .noConnection url => "HTTP transport error: error sending request for url (" ++ url ++ ")"
  | .notCallable url => "HTTP transport error: builder error for url (" ++ url ++ ")"
  | .brokenBody => "HTTP transport error: error decoding response body"
  | .invalidUrl flaw => "Invalid URL: " ++ flaw.message
  | .timeout seconds => "Request timed out after " ++ Nat.repr seconds ++ "s"
  | .tls reason => "TLS error: " ++ reason
  | .http status reason =>
    "Datacenter API error (HTTP " ++ Nat.repr status ++ "): " ++ reason
  | .unreadable reason _ => "Deserialization error: " ++ reason

/-- Whether the datacenter could not be reached at all. -/
def isUnreachable : ApiError → Bool
  | .noConnection _ | .timeout _ | .tls _ => true
  | _ => false

/-- The status that the datacenter answered with. -/
def status? : ApiError → Option Nat
  | .http status _ => some status
  | _ => none

/-- Whether the datacenter has no such thing. -/
def isNotFound (error : ApiError) : Bool := error.status? = some 404

end ApiError

end FleetView
