import Gatekeeper.Http.Credential
import Gatekeeper.Service.Route
import Gatekeeper.Target

/-!
# Boundary

What stands between a request and the protected handlers: the credential of the
request, the target of the method and path that it wants, and the engine that
decides.
-/

namespace Gatekeeper

open Gatekeeper.Http

/-- The collaborators, the sink and the rules that decisions are made with, and
the paths that the router takes under the prefix of the rules. -/
structure Boundary (State Store : Type) where
  collaborators : Collaborators State
  sink : AuditSink Store
  policy : FallbackPolicy
  target : TargetRules
  scope : ScopeMatch

/-- The id and the time of an evaluation. -/
structure Occasion where
  requestId : String
  now : Nat
deriving DecidableEq, Repr

namespace Boundary

variable {State Store : Type}

def authorize (boundary : Boundary State Store) (occasion : Occasion)
    (request : Request) (method path : String) (state : State) (store : Store) :
    Verdict × State × Store :=
  let target := boundary.target.resolve method path
  boundary.collaborators.evaluate boundary.sink boundary.policy occasion.now
    { requestId := occasion.requestId
      credential := Credential.ofRequest request
      relation := target.relation
      object := target.object }
    state store

end Boundary

/-- The first value of a header as text: empty when it is not readable. -/
def forwardedText? (request : Request) (name : String) : Option String :=
  (request.values name).head?.map fun value => value.text?.getD ""

/-- The method and the path of the request that a proxy asks about. Without the
headers that name them, the method is that of the question and the path is the
root. -/
def forwardedTarget (request : Request) : String × String :=
  ((forwardedText? request "x-forwarded-method").getD request.method,
    (forwardedText? request "x-forwarded-uri").getD "/")

end Gatekeeper
