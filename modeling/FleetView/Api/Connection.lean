/-
The connection to one datacenter. Reading asks for one of its collections and
decodes the answer as a list; writing sends a request and is satisfied with
success. The segments behind the base URL say what a request is about.
-/

import FleetView.Api.Write
import FleetView.Certificate.Bundle
import FleetView.Store.Collections
import FleetView.Files

namespace FleetView

/-- A name and a password. -/
structure Credentials where
  username : String
  password : String
  deriving DecidableEq, Repr

/-- How certificates are checked. -/
inductive Tls where
  /-- As the system does it. -/
  | system
  /-- Against a certificate that is kept in a file. -/
  | ca (path : String)
  /-- Not at all. -/
  | insecure
  deriving DecidableEq, Repr

/-- The connection to one datacenter. -/
structure Connection where
  base : Url
  credentials : Option Credentials
  agent : Option String
  /-- How long a request may take until the connection gives it up, if it ever does. -/
  limit : Option Duration
  deriving DecidableEq, Repr

/-- Why no connection can be set up with these checks, if so. -/
def Tls.refusal? (tls : Tls) (files : Files) : Option ApiError :=
  match tls with
  | .system | .insecure => none
  | .ca path =>
    match (files path).content with
    | .error reason => some (.tls ("failed to read CA cert: " ++ reason))
    | .ok bytes =>
      if Certificate.isReadable bytes then none
      else some (.tls "failed to build HTTP client: builder error")

/-! ### Calls -/

/-- The name under which the program calls. -/
def agentName : String := "vantage/0.1.0"

namespace Connection

/-- What is sent for authorization. Name and password in the base URL come before
those that were given apart from it, and where there are both, both are sent. -/
def authorization (connection : Connection) : List String :=
  (connection.base.credentials?.map fun (username, password) =>
    basicAuthorization username (password.getD "")).toList ++
  (connection.credentials.map fun held =>
    basicAuthorization held.username held.password).toList

/-- A request over the connection. Name and password are sent for authorization and
leave the URL; those that cannot be read stay in it. -/
def request (connection : Connection) (method : Method) (segments : List String)
    (body : Option Json) : Except ApiError Request :=
  match connection.base.descend segments with
  | .error flaw => .error (.invalidUrl flaw)
  | .ok url =>
    let url := if url.credentials?.isSome then url.withoutUserinfo else url
    if !url.isCallable then .error (.notCallable url.text)
    else
      .ok
        { method
          url
          authorization := connection.authorization
          agent := connection.agent
          body := body.map Json.compact }

/-- Makes a call. -/
def call (connection : Connection) (network : Network) (method : Method) (segments : List String)
    (body : Option Json) : Outcome String :=
  match connection.request method segments body with
  | .error error => .ended (.error error)
  | .ok request => request.send network

/-- Reads a list from a collection. An answer that cannot be read is told with the reason; the
reader adds the line and the column at which it has given up, and this is left out. -/
def list {α : Type} (connection : Connection) (network : Network) (collection : String)
    (decoder : Decoder α) : Outcome (List α) :=
  (connection.call network .get [collection] none).bind fun text =>
    (decoder.list.fromText text).mapError fun fault => .unreadable fault.message text

/-- The request of a write. -/
def writing (connection : Connection) (write : Write) : Except ApiError Request :=
  connection.request write.method write.segments write.body

/-- Writes. -/
def write (connection : Connection) (network : Network) (write : Write) : Outcome Unit :=
  (connection.call network write.method write.segments write.body).bind fun _ => .ok ()

end Connection

end FleetView
