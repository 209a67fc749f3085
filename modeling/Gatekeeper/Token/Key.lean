import Gatekeeper.Codec.Base64
import Gatekeeper.Codec.Pem
import Gatekeeper.Token.Algorithm
import Gatekeeper.Json.Document

/-!
# Keys

A verification key is what signatures are checked against. It comes from a text
with a public key in it, or from a published key: a JSON object with an optional
id and the material of one of four kinds of keys.
-/

namespace Gatekeeper

open Gatekeeper.Json

/-- A key of the RSA family, or of another one. A key of the family that is no
well-formed public key verifies nothing. -/
inductive VerificationKey where
  | rsa (key : Option Rsa.PublicKey)
  | otherFamily
deriving DecidableEq, Repr

/-! ### Keys in texts -/

inductive KeyTextFault where
  | format
  | content
deriving DecidableEq, Repr

def KeyTextFault.message : KeyTextFault → String
  | format =>
      "parse RSA public key for jwt token validation failed: InvalidKeyFormat"
  | content =>
      "parse RSA public key for jwt token validation failed: InvalidEcdsaKey"

/-- The identifiers of key types. -/
def rsaIdentifier : List Nat := [1, 2, 840, 113549, 1, 1, 1]

def keyTypeIdentifiers : List (List Nat) :=
  [[1, 2, 840, 10045, 2, 1], rsaIdentifier, [1, 3, 101, 112]]

/-- The key of the first block of a text. A block of a general kind has to say
that its key is an RSA key. -/
def VerificationKey.ofText (text : String) :
    Except KeyTextFault VerificationKey :=
  match Pem.Block.first? text with
  | none => .error .format
  | some block =>
      match Der.Value.readAll? (block.content.length + 1) block.content with
      | none => .error .format
      | some values =>
          if block.tag = "RSA PUBLIC KEY" ∨ block.tag = "RSA PRIVATE KEY" then
            .ok (.rsa (Rsa.PublicKey.ofDer? block.content))
          else if block.tag = "PUBLIC KEY" ∨ block.tag = "PRIVATE KEY" ∨
              block.tag = "CERTIFICATE" then
            if Der.findIdentifierIn? keyTypeIdentifiers values =
              some rsaIdentifier then
              match Der.findContentIn? values with
              | none => .error .content
              | some content => .ok (.rsa (Rsa.PublicKey.ofDer? content))
            else
              .error .format
          else
            .error .format

/-! ### Published keys -/

/-- The material of a published key, as it is written. -/
inductive KeyMaterial where
  | ellipticCurve (x y : String)
  | rsa (modulus exponent : String)
  | secret (value : String)
  | curvePoint (x : String)
deriving DecidableEq, Repr

structure PublishedKey where
  id : Option String
  material : KeyMaterial
deriving DecidableEq, Repr

namespace PublishedKey

def commonNames : List String :=
  ["use", "key_ops", "alg", "kid", "x5u", "x5c", "x5t", "x5t#S256"]

/-- The algorithms that a key may name. -/
def algorithmNames : List String :=
  SignatureAlgorithm.all.map SignatureAlgorithm.name ++
    ["RSA1_5", "RSA-OAEP", "RSA-OAEP-256"]

def curveNames : List String := ["P-256", "P-384", "P-521", "Ed25519"]

/-- The id of a key whose common members all have their type. -/
def commonId? (members : List (String × Document)) :
    Option (Option String) := do
  if commonNames.any (Document.isRepeated members) then none
  let _ ← Document.optionalText? (members.lookup "use")
  let _ ← Document.optionalTexts? (members.lookup "key_ops")
  let algorithmIsKnown :=
    match members.lookup "alg" with
    | none | some .null => true
    | some document => document.choice?.any algorithmNames.contains
  if !algorithmIsKnown then none
  let id ← Document.optionalText? (members.lookup "kid")
  let _ ← Document.optionalText? (members.lookup "x5u")
  let _ ← Document.optionalTexts? (members.lookup "x5c")
  let _ ← Document.optionalText? (members.lookup "x5t")
  let _ ← Document.optionalText? (members.lookup "x5t#S256")
  some id

/-- Whether members are of a type of key: the type is named, and no member of it
is repeated. -/
def isOfType (members : List (String × Document)) (type : String)
    (names : List String) : Bool :=
  !("kty" :: names).any (Document.isRepeated members) &&
    (members.lookup "kty").bind Document.choice? = some type

def textOf? (members : List (String × Document)) (name : String) :
    Option String :=
  (members.lookup name).bind Document.text?

def hasCurve (members : List (String × Document)) : Bool :=
  ((members.lookup "crv").bind Document.choice?).any curveNames.contains

/-- The material that members write: the first kind that they fit. -/
def material? (members : List (String × Document)) : Option KeyMaterial :=
  let text := textOf? members
  let ellipticCurve :=
    if isOfType members "EC" ["crv", "x", "y"] && hasCurve members then do
      some (KeyMaterial.ellipticCurve (← text "x") (← text "y"))
    else
      none
  let rsa :=
    if isOfType members "RSA" ["n", "e"] then do
      some (.rsa (← text "n") (← text "e")) else none
  let secret :=
    if isOfType members "oct" ["k"] then (text "k").map .secret else none
  let curvePoint :=
    if isOfType members "OKP" ["crv", "x"] && hasCurve members then
      (text "x").map .curvePoint
    else none
  ellipticCurve.or (rsa.or (secret.or curvePoint))

/-- The key that an object writes, which nests at most `depth` levels. -/
def ofDocument? (depth : Nat) (document : Document) : Option PublishedKey :=
  match document with
  | .object members => do
      let _ ← document.value? depth
      let named ← Document.namedMembers? members
      some ⟨← commonId? named, ← material? named⟩
  | _ => none

def decode? (text : String) : Option (List UInt8) :=
  Base64.urlSafe.decode? text.toList

/-- The verification key of a published one; none when its material is not in
the form of published keys. -/
def verificationKey? (key : PublishedKey) : Option VerificationKey :=
  match key.material with
  | .rsa modulus exponent => do
      some (.rsa (Rsa.PublicKey.ofBytes? (← decode? modulus)
        (← decode? exponent)))
  | .ellipticCurve x y => do
      let _ ← decode? x
      let _ ← decode? y
      some .otherFamily
  | .secret value => (decode? value).map fun _ => .otherFamily
  | .curvePoint x => (decode? x).map fun _ => .otherFamily

end PublishedKey

end Gatekeeper
