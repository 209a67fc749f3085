import Gatekeeper.Identity.Identifier
import Gatekeeper.Json.Basic

/-!
# Claims and principals

Claims are what an identity provider vouches for. A principal is the caller they
name, under its canonical id.
-/

namespace Gatekeeper

structure Claims where
  username : String
  subject : String
  /-- Seconds since the epoch. -/
  expiresAt : Nat
  extra : Json.Members
deriving Repr

def Claims.toJson (claims : Claims) : Json :=
  .object [("username", .string claims.username),
    ("subject", .string claims.subject), ("expires_at", .nat claims.expiresAt),
    ("extra", .object claims.extra)]

inductive IdentityFailure where
  | credentialInvalid (detail : String)
  | unavailable (detail : String)
deriving DecidableEq, Repr

namespace IdentityFailure

def detail : IdentityFailure → String
  | credentialInvalid detail => detail
  | unavailable detail => detail

def message : IdentityFailure → String
  | credentialInvalid detail => "credential invalid: " ++ detail
  | unavailable detail => "identity provider unavailable: " ++ detail

end IdentityFailure

/-- The answer of an identity provider to a token. -/
abbrev Authentication := Except IdentityFailure Claims

structure Principal where
  rawIdentifier : String
  canonicalId : String
  claims : Claims
deriving Repr

namespace Principal

def ofClaims (claims : Claims) : Except Identifier.Invalid Principal :=
  match Identifier.canonical claims.username with
  | .error invalid => .error invalid
  | .ok canonicalId => .ok ⟨claims.username, canonicalId, claims⟩

def toJson (principal : Principal) : Json :=
  .object [("raw_identifier", .string principal.rawIdentifier),
    ("canonical_id", .string principal.canonicalId),
    ("claims", principal.claims.toJson)]

end Principal

end Gatekeeper
