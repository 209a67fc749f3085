import Gatekeeper.Http.Response
import Gatekeeper.Service.Boundary

/-!
# Answers of the service

A request on the protected or the verify route passes the boundary first, and a
denied one never reaches a handler. The other routes ask nobody.
-/

namespace Gatekeeper

open Gatekeeper.Http
open Gatekeeper.Text

def serviceVersion : String := "0.1.0"

def healthAnswer (now : Nat) : Response :=
  .data (.object [("now", .nat now), ("time_zone", .string "+00:00"),
    ("version", .string serviceVersion)])

/-- The part of a path behind the prefix, without slashes around it. -/
def servedPath (pathPrefix path : String) : List Char :=
  trimBoth (· = '/') ((stripLead? pathPrefix.toList path.toList).getD
    path.toList)

/-- What the service says of an allowed caller. -/
def describe (principal : Principal) : Json :=
  .object [("expires_at", .nat principal.claims.expiresAt),
    ("name", .string principal.canonicalId),
    ("raw_identifier", .string principal.rawIdentifier),
    ("subject", .string principal.claims.subject)]

/-- The answer to an allowed request below the prefix. -/
def protectedAnswer (pathPrefix : String) (request : Request)
    (principal : Principal) :
    Response :=
  if servedPath pathPrefix request.target.path = "whoami".toList ∧
    request.method = "GET" then
    .data (describe principal)
  else
    .notFound

/-- The answer to an allowed question of a proxy: the caller in a header, if it
can stand there. -/
def verifyAnswer (principal : Principal) : Response :=
  let value := Utf8.encode principal.canonicalId
  if HeaderValue.isLegal value then { Response.ok with principal := some value }
  else .accessDenied

def unknownAnswer (request : Request) : Response :=
  .error 404 ("No route to " ++ request.method ++ " " ++ request.target.path)

namespace Boundary

variable {State Store : Type}

/-- Answer an allowed request by its handler, and deny any other. -/
def guard (boundary : Boundary State Store) (occasion : Occasion)
    (request : Request)
    (method path : String) (handler : Principal → Response) (state : State)
    (store : Store) :
    Response × State × Store :=
  let (verdict, state, store) :=
    boundary.authorize occasion request method path state store
  match verdict.allowedPrincipal with
  | none => (.accessDenied, state, store)
  | some principal => (handler principal, state, store)

/-- The route of a request. -/
abbrev route (boundary : Boundary State Store) (request : Request) : Route :=
  Route.ofPath boundary.scope boundary.target.pathPrefix request.target.path

def answer (boundary : Boundary State Store) (occasion : Occasion)
    (request : Request)
    (state : State) (store : Store) : Response × State × Store :=
  match boundary.route request with
  | .health =>
      (if request.method = "GET" then healthAnswer occasion.now
       else .empty 405, state, store)
  | .verify =>
      let (method, path) := forwardedTarget request
      boundary.guard occasion request method path verifyAnswer state store
  | .guarded =>
      boundary.guard occasion request request.method request.target.full
        (protectedAnswer boundary.target.pathPrefix request) state store
  | .unknown => (unknownAnswer request, state, store)

end Boundary

/-- What a service answers that has protected routes and no boundary to guard
them. -/
def answerUnguarded (scope : ScopeMatch) (pathPrefix : String)
    (request : Request) : Response :=
  match Route.ofPath scope pathPrefix request.target.path with
  | .verify | .guarded => .accessDenied
  | .health | .unknown => .empty 404

end Gatekeeper
