import Gatekeeper.Crypto.Rsa

/-!
# Signature algorithms

The algorithms that the header of a token may name, and those among them that
are accepted.
-/

namespace Gatekeeper

inductive SignatureAlgorithm where
  | hs256
  | hs384
  | hs512
  | es256
  | es384
  | rs256
  | rs384
  | rs512
  | ps256
  | ps384
  | ps512
  | edDsa
deriving DecidableEq, Repr

namespace SignatureAlgorithm

def name : SignatureAlgorithm → String
  | hs256 => "HS256"
  | hs384 => "HS384"
  | hs512 => "HS512"
  | es256 => "ES256"
  | es384 => "ES384"
  | rs256 => "RS256"
  | rs384 => "RS384"
  | rs512 => "RS512"
  | ps256 => "PS256"
  | ps384 => "PS384"
  | ps512 => "PS512"
  | edDsa => "EdDSA"

def all : List SignatureAlgorithm :=
  [hs256, hs384, hs512, es256, es384, rs256, rs384, rs512, ps256, ps384, ps512,
    edDsa]

def ofName? (text : String) : Option SignatureAlgorithm :=
  all.find? fun algorithm => algorithm.name = text

end SignatureAlgorithm

/-- An accepted algorithm: RSA with a padding and a hash. -/
structure AcceptedAlgorithm where
  padding : Rsa.Padding
  hash : Sha2.Hash
deriving DecidableEq, Repr

/-- The accepted algorithm that a named one is. -/
def SignatureAlgorithm.accepted? : SignatureAlgorithm → Option AcceptedAlgorithm
  | rs256 => some ⟨.deterministic, .sha256⟩
  | rs384 => some ⟨.deterministic, .sha384⟩
  | rs512 => some ⟨.deterministic, .sha512⟩
  | ps256 => some ⟨.probabilistic, .sha256⟩
  | ps384 => some ⟨.probabilistic, .sha384⟩
  | ps512 => some ⟨.probabilistic, .sha512⟩
  | _ => none

end Gatekeeper
