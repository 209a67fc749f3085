import Gatekeeper.Token.Key

/-!
# Parts and headers of tokens

A token is a header, a payload and a signature, with dots between them. The
header says how the token is signed, and perhaps under which key.
-/

namespace Gatekeeper

open Gatekeeper.Json
open Gatekeeper.Text

/-- A token by its parts, still encoded. -/
structure TokenParts where
  header : List Char
  payload : List Char
  signature : List Char
deriving DecidableEq, Repr

namespace TokenParts

/-- Split a token at its last two dots. -/
def ofText? (token : String) : Option TokenParts :=
  (splitLast? '.' token.toList).bind fun (signed, signature) =>
    (splitLast? '.' signed).map fun (header, payload) =>
      ⟨header, payload, signature⟩

theorem ofText?_eq_some_iff {token : String} {parts : TokenParts} :
    ofText? token = some parts ↔
      token.toList = parts.header ++ '.' :: parts.payload ++ '.' ::
      parts.signature ∧
        '.' ∉ parts.payload ∧ '.' ∉ parts.signature := by
  obtain ⟨header, payload, signature⟩ := parts
  simp only [ofText?, Option.bind_eq_some_iff, Option.map_eq_some_iff,
    Prod.exists, splitLast?_eq_some_iff, TokenParts.mk.injEq]
  constructor
  · rintro ⟨signed, _, ⟨whole, undotted⟩, _, _, ⟨rfl, bare⟩, rfl, rfl, rfl⟩
    exact ⟨whole, bare, undotted⟩
  · rintro ⟨whole, bare, undotted⟩
    exact ⟨header ++ '.' :: payload, signature, ⟨whole, undotted⟩, header,
      payload, ⟨rfl, bare⟩, rfl, rfl, rfl⟩

/-- What the signature is over: the encoded header and payload with the dot
between them. -/
def signedText (parts : TokenParts) : String :=
  String.ofList (parts.header ++ '.' :: parts.payload)

end TokenParts

structure TokenHeader where
  algorithm : SignatureAlgorithm
  keyId : Option String
deriving DecidableEq, Repr

inductive HeaderFault where
  | parts
  | encoding
  | content
deriving DecidableEq, Repr

def HeaderFault.message : HeaderFault → String
  | parts => "InvalidToken"
  | encoding => "Base64 error"
  | content => "JSON error"

namespace TokenHeader

/-- The members that a header may have, in their order. -/
def names : List String :=
  ["typ", "alg", "cty", "jku", "jwk", "kid", "x5u", "x5c", "x5t", "x5t#S256"]

/-- Whether a document is missing, null, or a published key. A header holds it
one level deep. -/
def isOptionalKey : Option Document → Bool
  | none | some .null => true
  | some document =>
      (PublishedKey.ofDocument? (Document.maxDepth - 1) document).isSome

/-- Whether a document that is an array has an item for each member. -/
def isComplete : Document → Bool
  | .array items => items.length = names.length
  | _ => true

def ofDocument? (document : Document) : Option TokenHeader := do
  if !isComplete document then none
  let members ← document.record? names
  let text (name : String) := Document.optionalText? (members.lookup name)
  let _ ← text "typ"
  let algorithm ←
    (members.lookup "alg").bind fun value =>
      value.choice?.bind SignatureAlgorithm.ofName?
  let _ ← text "cty"
  let _ ← text "jku"
  if !isOptionalKey (members.lookup "jwk") then none
  let keyId ← text "kid"
  let _ ← text "x5u"
  let _ ← Document.optionalTexts? (members.lookup "x5c")
  let _ ← text "x5t"
  let _ ← text "x5t#S256"
  some ⟨algorithm, keyId⟩

def decode (encoded : List Char) : Except HeaderFault TokenHeader :=
  match Base64.urlSafe.decode? encoded with
  | none => .error .encoding
  | some bytes =>
      match (Document.read? (Utf8.decode bytes)).bind ofDocument? with
      | none => .error .content
      | some header => .ok header

def ofToken (token : String) : Except HeaderFault (TokenParts × TokenHeader) :=
  match TokenParts.ofText? token with
  | none => .error .parts
  | some parts => (decode parts.header).map fun header => (parts, header)

end TokenHeader

end Gatekeeper
