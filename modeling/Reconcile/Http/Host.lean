import Reconcile.Http.Address
import Reconcile.Json.Printer

/-!
# Calls over HTTP

A call asks a host for something at an address; the host responds with a status and a text. A host
is any function from calls and a state to responses and a new state. `Script.host` responds as it
is told beforehand and keeps a record of the calls.
-/

namespace Reconcile.Http

/-- What a call is to do. -/
inductive Method where
  | get | post | patch | delete
deriving DecidableEq

/-- The name of a method. -/
def Method.name : Method → String
  | .get => "GET"
  | .post => "POST"
  | .patch => "PATCH"
  | .delete => "DELETE"

/-- What the content of a call is. -/
inductive MediaType where
  | json
  | mergePatch
deriving DecidableEq

/-- The name of a media type. -/
def MediaType.name : MediaType → String
  | .json => "application/json"
  | .mergePatch => "application/merge-patch+json"

/-- A call to a host. -/
structure Call where
  method : Method
  address : Address
  content : Option (MediaType × Json)

/-- What a host responds. -/
structure Response where
  status : Nat
  text : String

/-- A host with a state: it responds to calls one by one. -/
structure Host (σ : Type) where
  respond : Call → StateM σ Response

/-- What is responded to the calls of a method at a path, whatever their query. -/
structure Route where
  method : Method
  path : String
  response : Response
  /-- Whether the route holds for one call only. -/
  once : Bool

/-- Whether a route is for a call. -/
def Route.fits (call : Call) (route : Route) : Bool :=
  route.method == call.method && route.path == call.address.path

/-- Routes, of which the first that fits counts, and the calls so far. -/
structure Script where
  routes : List Route
  calls : List Call

namespace Script

/-- What is responded where no route fits. -/
def noRoute : Response where
  status := 404
  text := (Json.ofMembers [("kind", "Status"), ("status", "Failure"), ("message", "no route"),
    ("reason", "NotFound"), ("code", ((Number.ofInt? 404).map Json.number).getD .null)]).compact

/-- Responds as the routes say. -/
def host : Host Script where
  respond call script :=
    let script := { script with calls := script.calls ++ [call] }
    match script.routes.find? (·.fits call) with
    | none => (noRoute, script)
    | some route =>
      (route.response,
        if route.once then { script with routes := script.routes.eraseP (·.fits call) } else script)

end Script

end Reconcile.Http
