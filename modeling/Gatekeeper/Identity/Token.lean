import Gatekeeper.Text.Quoted
import Gatekeeper.Token.Validation

/-!
# Authenticating tokens

A token is examined before any key is looked for: its header has to name an
accepted algorithm. It is then judged under one key.
-/

namespace Gatekeeper

inductive TokenFault where
  | header (fault : HeaderFault)
  | algorithm (named : SignatureAlgorithm)
  | unknownKey (keyId : Option String)
  | unusableKey (keyId : Option String)
  | validation (fault : ValidationFault)
  | claims (fault : ClaimsFault)
deriving DecidableEq, Repr

namespace TokenFault

def message : TokenFault → String
  | header fault => "decode jwt header: " ++ fault.message
  | algorithm named => "signing algorithm " ++ named.name ++ " is not accepted"
  | unknownKey keyId => "unknown signing key id " ++ Text.quotedOptional keyId
  | unusableKey keyId =>
      "signing key " ++ Text.quotedOptional keyId ++
        " is unusable: Base64 error"
  | validation fault => "validate jwt token failed: " ++ fault.message
  | claims fault => fault.message

def failure (fault : TokenFault) : IdentityFailure :=
  .credentialInvalid fault.message

end TokenFault

/-- A token whose header names an accepted algorithm. -/
structure ExaminedToken where
  parts : TokenParts
  algorithm : AcceptedAlgorithm
  keyId : Option String
deriving DecidableEq, Repr

namespace ExaminedToken

def ofText (token : String) : Except TokenFault ExaminedToken :=
  match TokenHeader.ofToken token with
  | .error fault => .error (.header fault)
  | .ok (parts, header) =>
      match header.algorithm.accepted? with
      | none => .error (.algorithm header.algorithm)
      | some algorithm => .ok ⟨parts, algorithm, header.keyId⟩

/-- The claims of a token that is valid under a key. -/
def judge (token : ExaminedToken) (rules : TokenRules) (now : Nat)
    (key : VerificationKey) :
    Except TokenFault Claims :=
  match rules.validate now token.algorithm key token.parts with
  | .error fault => .error (.validation fault)
  | .ok payload => (rules.claims payload).mapError .claims

end ExaminedToken

/-- The answer of an identity provider with state to a token at a time. -/
abbrev Authenticator (State : Type) :=
  Nat → String → State → Authentication × State

def authenticateUnderKey (rules : TokenRules) (key : VerificationKey)
    (now : Nat) (token : String) : Authentication :=
  match ExaminedToken.ofText token with
  | .error fault => .error fault.failure
  | .ok examined => (examined.judge rules now key).mapError TokenFault.failure

end Gatekeeper
