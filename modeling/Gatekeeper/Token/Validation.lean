import Gatekeeper.Identity.Claims
import Gatekeeper.Identity.Rules
import Gatekeeper.Token.Header

/-!
# Validation of tokens

A token is valid under a key when its signature verifies, its payload is an
object, the time lies within its bounds, and it names the configured issuer and
audience. Its payload then becomes claims.
-/

namespace Gatekeeper

open Gatekeeper.Json
open Gatekeeper.Number
open Gatekeeper.Text

inductive ValidationFault where
  | keyFamily
  | signatureEncoding
  | signature
  | payloadEncoding
  | payload
  | missingExpiry
  | expired
  | immature
  | issuer
  | audience
deriving DecidableEq, Repr

def ValidationFault.message : ValidationFault → String
  | keyFamily => "InvalidAlgorithm"
  | signatureEncoding => "Base64 error"
  | signature => "InvalidSignature"
  | payloadEncoding => "Base64 error"
  | payload => "JSON error"
  | missingExpiry => "Missing required claim: exp"
  | expired => "ExpiredSignature"
  | immature => "ImmatureSignature"
  | issuer => "InvalidIssuer"
  | audience => "InvalidAudience"

/-! ### Signature -/

def TokenParts.checkSignature (parts : TokenParts)
    (algorithm : AcceptedAlgorithm)
    (key : VerificationKey) : Except ValidationFault Unit :=
  match key with
  | .otherFamily => .error .keyFamily
  | .rsa key =>
      match Base64.urlSafe.decode? parts.signature with
      | none => .error .signatureEncoding
      | some signature =>
          if key.any fun key => Rsa.verify key algorithm.padding algorithm.hash
              (Utf8.encode parts.signedText) signature then
            .ok ()
          else
            .error .signature

/-! ### Payload -/

/-- The members that a payload may hold only once. -/
def registeredNames : List String := ["exp", "nbf", "sub", "iss", "aud"]

/-- Whether a moment is written as an array or object with something in it. -/
def isFilled : Option Document → Bool
  | some (.array (_ :: _)) => true
  | some (.object (_ :: _)) => true
  | _ => false

def isStructured : Option Document → Bool
  | some (.array _) => true
  | some (.object _) => true
  | _ => false

/-- The payload of a token: its members as values. -/
def payloadOf? (bytes : List UInt8) : Option Members := do
  let document ← Document.read? (Utf8.decode bytes)
  let value ← document.value? Document.maxDepth
  let members ← value.members?
  let written ← document.record? registeredNames
  if isFilled (written.lookup "exp") || isFilled (written.lookup "nbf") ||
      isStructured (written.lookup "sub") then
    none
  some members

/-! ### Rules -/

/-- The moment that a number writes in seconds, to the nearest one; a half goes
up. -/
def momentOf? : Option Json → Option Nat
  | some (.number (.natural seconds)) => some seconds
  | some (.number (.double value)) =>
      let seconds := value.magnitude.nearestUp
      if (value.negative && value.magnitude.significand ≠ 0) ||
          Nat.pow 2 64 ≤ value.magnitude.truncated then
        none
      else
        some seconds
  | _ => none

/-- What an issuer or audience member names: one text, or several. Other values
name nothing. -/
def namedBy? : Option Json → Option (List String)
  | some (.string text) => some [text]
  | some (.array items) => items.mapM Json.text?
  | _ => none

/-- Whether a member agrees with what is required. A member that names nothing
agrees with everything. -/
def agrees (required : Option String) (member : Option Json) : Bool :=
  match required, namedBy? member with
  | some text, some named => named.contains text
  | _, _ => true

/-- Check the times, the issuer and the audience of a payload. -/
def TokenRules.checkPayload (rules : TokenRules) (now : Nat)
    (payload : Members) :
    Except ValidationFault Unit :=
  match momentOf? (payload.get? "exp") with
  | none => .error .missingExpiry
  | some expiry =>
      if expiry < now - rules.leeway then
        .error .expired
      else if (momentOf? (payload.get? "nbf")).any (now + rules.leeway < ·) then
        .error .immature
      else if !agrees rules.issuer (payload.get? "iss") then
        .error .issuer
      else if !agrees rules.audience (payload.get? "aud") then
        .error .audience
      else
        .ok ()

def TokenRules.validate (rules : TokenRules) (now : Nat)
    (algorithm : AcceptedAlgorithm)
    (key : VerificationKey) (parts : TokenParts) :
    Except ValidationFault Members :=
  match parts.checkSignature algorithm key with
  | .error fault => .error fault
  | .ok () =>
      match Base64.urlSafe.decode? parts.payload with
      | none => .error .payloadEncoding
      | some bytes =>
          match payloadOf? bytes with
          | none => .error .payload
          | some payload =>
              match rules.checkPayload now payload with
              | .error fault => .error fault
              | .ok () => .ok payload

/-! ### Claims -/

inductive ClaimsFault where
  | missingExpiry
  | nameless (usernameClaim : String)
deriving DecidableEq, Repr

def ClaimsFault.message : ClaimsFault → String
  | missingExpiry => "missing exp claim"
  | nameless usernameClaim =>
      "token has neither '" ++ usernameClaim ++ "' nor 'sub' claim"

/-- A number as whole seconds: towards zero, and within 64 bits. -/
def wholeSeconds : JsonNumber → Nat
  | .natural value => value
  | .negative _ => 0
  | .double value =>
      if value.negative then 0
      else min value.magnitude.truncated (Nat.pow 2 64 - 1)

def nonEmpty? : Option Json → Option String
  | some (.string text) => if text.isEmpty then none else some text
  | _ => none

/-- The claims of a payload. The user is named by the configured claim, or else
by the subject. -/
def TokenRules.claims (rules : TokenRules) (payload : Members) :
    Except ClaimsFault Claims :=
  match payload.get? "exp" with
  | some (.number expiry) =>
      let extra := payload.erase "sub"
      let subject := ((payload.get? "sub").bind Json.text?).getD ""
      let named :=
        (nonEmpty? (extra.get? rules.usernameClaim)).or
          (nonEmpty? (payload.get? "sub"))
      match named with
      | none => .error (.nameless rules.usernameClaim)
      | some username => .ok ⟨username, subject, wholeSeconds expiry, extra⟩
  | _ => .error .missingExpiry

end Gatekeeper
