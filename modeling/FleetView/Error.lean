/-
What a caller of the dashboard can be told. A refusal for want of access has no
words of its own: it reads like the absence of what was asked for.
-/

import FleetView.Api.Error
import FleetView.Object.Kind

namespace FleetView

/-- Why a request to the dashboard failed. -/
inductive Failure where
  | config (reason : String)
  | unreachable (datacenter reason : String)
  | rejected (datacenter reason : String)
  | notFound (kind key : String)
  | invalidPayload (reason : String)
  | internal (reason : String)
  deriving DecidableEq, Repr

namespace Failure

/-- The wording of a failure. -/
def message : Failure → String
  | .config reason => "Configuration error: " ++ reason
  | .unreachable datacenter reason => "Datacenter '" ++ datacenter ++ "' is unreachable: " ++ reason
  | .rejected datacenter reason =>
    "Datacenter '" ++ datacenter ++ "' rejected the command: " ++ reason
  | .notFound kind key => kind ++ " not found: " ++ key
  | .invalidPayload reason => "Invalid payload: " ++ reason
  | .internal reason => "Internal error: " ++ reason

/-- Whether a failure says that something is not there. -/
def isNotFound : Failure → Bool
  | .notFound _ _ => true
  | _ => false

/-- The failure of a command when the call to the datacenter failed. -/
def ofApi (datacenter : String) (kind : Kind) (key : String) (error : ApiError) : Failure :=
  if error.isNotFound then .notFound kind.name key
  else if error.isUnreachable then .unreachable datacenter error.message
  else match error with
    | .http status reason =>
      .rejected datacenter ("HTTP " ++ Nat.repr status ++ ": " ++ reason)
    | other => .rejected datacenter other.message

end Failure

end FleetView
