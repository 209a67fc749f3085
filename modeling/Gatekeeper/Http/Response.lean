import Gatekeeper.Http.Request
import Gatekeeper.Json.Basic

/-!
# Responses

A response has a status and perhaps a JSON body, which repeats the status as its
code. A denial is the same for every reason.
-/

namespace Gatekeeper.Http

structure Response where
  status : Nat
  /-- The caller's canonical id, for a proxy to pass on. -/
  principal : Option HeaderValue
  body : Option Json
deriving Repr

namespace Response

def empty (status : Nat) : Response :=
  ⟨status, none, none⟩

def error (status : Nat) (message : String) : Response :=
  ⟨status, none,
    some (.object [("code", .nat status), ("message", .string message)])⟩

def accessDenied : Response :=
  error 403 "Access denied"

def notFound : Response :=
  error 404 "Resource not found"

def ok : Response :=
  ⟨200, none, some (.object [("code", .nat 200)])⟩

def data (value : Json) : Response :=
  ⟨200, none, some (.object [("code", .nat 200), ("data", value)])⟩

end Response

end Gatekeeper.Http
