import Gatekeeper.Http.Request

/-!
# Routes

The path of a request decides who answers it. For that its percent escapes are
taken as the characters they stand for, those of the percent sign, the slash and
the plus sign apart. The prefix of the protected routes is a pattern of the
router, whose reading of patterns is a parameter here.
-/

namespace Gatekeeper

open Gatekeeper.Text

inductive Route where
  | health
  | verify
  /-- What the router takes under the prefix. -/
  | guarded
  | unknown
deriving DecidableEq, Repr

/-- The byte that two hexadecimal digits write, unless it stays escaped. -/
def escapedByte? (high low : UInt8) : Option UInt8 :=
  match hexDigit? (Char.ofNat high.toNat), hexDigit? (Char.ofNat low.toNat) with
  | some upper, some lower =>
      let byte := UInt8.ofNat (upper * 16 + lower)
      if byte = 0x25 ∨ byte = 0x2F ∨ byte = 0x2B then none else some byte
  | _, _ => none

/-- A path with its percent escapes resolved. -/
def unescape : List UInt8 → List UInt8
  | first :: high :: low :: rest =>
      if first = 0x25 then
        match escapedByte? high low with
        | some byte => byte :: unescape rest
        | none => first :: unescape (high :: low :: rest)
      else
        first :: unescape (high :: low :: rest)
  | bytes => bytes

/-- A path as routes compare it. -/
def matchedPath (path : String) : List Char :=
  (Utf8.decodeLossy (unescape (Utf8.encode path))).toList

/-- Which paths, as routes compare them, the router takes under a pattern. A
name in braces stands for a segment or for what an expression behind the name
matches, and an asterisk at the end for any rest. -/
abbrev ScopeMatch := String → List Char → Bool

/-- How the router reads a pattern without braces and without an asterisk at its
end: it takes the path that is written and what lies below it. -/
def literalScope : ScopeMatch := fun pattern path =>
  match stripLead? pattern.toList path with
  | none => false
  | some rest => rest.isEmpty || rest.head? = some '/'

/-- The pattern of the protected routes. That of the root is empty. -/
def scopePattern (pathPrefix : String) : String :=
  if pathPrefix = "/" then "" else pathPrefix

/-- The route of a path, where the protected one is under a prefix. -/
def Route.ofPath (scope : ScopeMatch) (pathPrefix path : String) : Route :=
  let path := matchedPath path
  if path = "/healthz".toList then .health
  else if path = "/verify".toList then .verify
  else if scope (scopePattern pathPrefix) path then .guarded
  else .unknown

end Gatekeeper
