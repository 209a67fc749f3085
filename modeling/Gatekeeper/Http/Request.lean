import Gatekeeper.Text.Blank
import Gatekeeper.Text.Utf8

/-!
# Requests

A request has a method, a target and headers. The target is a path with perhaps
a query, a whole URL, a host, or a star; a fragment does not count. Values of
headers are bytes.
-/

namespace Gatekeeper.Http

open Gatekeeper.Text

/-! ### Methods and header values -/

def isTokenCharacter (character : Char) : Bool :=
  isAlphanumericAscii character || "!#$%&'*+-.^_`|~".toList.contains character

/-- Whether a text is a token, as methods and names of headers are. -/
def isToken (text : String) : Bool :=
  !text.isEmpty && text.toList.all isTokenCharacter

abbrev HeaderValue := List UInt8

namespace HeaderValue

/-- Whether bytes can be the value of a header: no control character but the tab
is among them. -/
def isLegal (value : HeaderValue) : Bool :=
  value.all fun byte => byte = 0x09 || (0x20 ≤ byte && byte ≠ 0x7F)

def isReadableByte (byte : UInt8) : Bool :=
  byte = 0x09 || (0x20 ≤ byte && byte < 0x7F)

/-- The text of a value of visible ASCII characters, spaces and tabs. -/
def text? (value : HeaderValue) : Option String :=
  if value.all isReadableByte then
    some (String.ofList (value.map fun byte => Char.ofNat byte.toNat))
  else
    none

end HeaderValue

/-! ### Targets -/

structure RequestTarget where
  path : String
  /-- The path with the query as it is written; none when the target is a
  host. -/
  pathAndQuery : Option String
deriving DecidableEq, Repr

namespace RequestTarget

def isPathCharacter (character : Char) : Bool :=
  let code := character.toNat
  code = 0x21 || character = '"' || (0x24 ≤ code && code ≤ 0x3B) ||
    code = 0x3D || (0x40 ≤ code && code ≤ 0x5F) || (0x61 ≤ code && code ≤ 0x7E)

def isQueryCharacter (character : Char) : Bool :=
  let code := character.toNat
  code = 0x21 || (0x24 ≤ code && code ≤ 0x3B) || code = 0x3D ||
    (0x3F ≤ code && code ≤ 0x7E)

/-- A path, perhaps empty, with perhaps a query and a fragment, which is not
looked at. -/
def ofPath? (text : List Char) : Option RequestTarget :=
  let path := text.takeWhile fun character => character ≠ '?' && character ≠ '#'
  let query := (text.drop path.length).takeWhile (· ≠ '#')
  if path.all isPathCharacter && (query.drop 1).all isQueryCharacter then
    let whole := path ++ query
    some ⟨if path.isEmpty then "/" else String.ofList path,
      some (if whole.isEmpty then "/" else String.ofList whole)⟩
  else
    none

def isAuthorityCharacter (character : Char) : Bool :=
  isAlphanumericAscii character ||
    "!#$&'()*+,-./:;=?@[]_~".toList.contains character

/-- What has been read of an authority. -/
structure AuthorityScan where
  colons : Nat
  isOpened : Bool
  isClosed : Bool
  hasPercent : Bool
  /-- Whether the last character was an at sign. -/
  endsUserInfo : Bool

/-- The length of the authority at the start of a text, when it is well
formed. -/
def authorityLength? : List Char → Nat → AuthorityScan → Option Nat
  | character :: rest, length, scan =>
      if character = '/' ∨ character = '?' ∨ character = '#' then
        authorityLength? [] length scan
      else if character = ':' then
        authorityLength? rest (length + 1)
          { scan with colons := scan.colons + 1, endsUserInfo := false }
      else if character = '[' then
        if scan.hasPercent || scan.isOpened then none
        else
          authorityLength? rest (length + 1)
            { scan with isOpened := true, endsUserInfo := false }
      else if character = ']' then
        if !scan.isOpened || scan.isClosed then none
        else
          authorityLength? rest (length + 1)
            ⟨0, scan.isOpened, true, false, false⟩
      else if character = '@' then
        authorityLength? rest (length + 1)
          ⟨0, scan.isOpened, scan.isClosed, false, true⟩
      else if character = '%' then
        authorityLength? rest (length + 1)
          { scan with hasPercent := true, endsUserInfo := false }
      else if isAuthorityCharacter character then
        authorityLength? rest (length + 1) { scan with endsUserInfo := false }
      else
        none
  | [], length, scan =>
      if scan.isOpened ≠ scan.isClosed || 1 < scan.colons ||
        scan.endsUserInfo ||
          scan.hasPercent then
        none
      else
        some length

def authorityOf? (text : List Char) : Option Nat :=
  authorityLength? text 0 ⟨0, false, false, false, false⟩

def isSchemeCharacter (character : Char) : Bool :=
  isAlphanumericAscii character || "+-.~".toList.contains character

/-- The part of a target behind its scheme. The outer nothing is a scheme that
is too long, the inner one a target without a scheme. -/
def afterScheme? (text : List Char) : Option (Option (List Char)) :=
  let scheme := text.takeWhile isSchemeCharacter
  match text.drop scheme.length with
  | ':' :: '/' :: '/' :: rest =>
      if 64 < scheme.length then none else some (some rest)
  | _ => some none

def maxLength : Nat := 65534

def ofText? (text : String) : Option RequestTarget :=
  let characters := text.toList
  if maxLength < utf8Length characters then
    none
  else
    match characters with
    | [] => none
    | ['*'] => some ⟨"*", some "*"⟩
    | '/' :: _ => ofPath? characters
    | _ =>
        match afterScheme? characters with
        | none => none
        | some none =>
            if authorityOf? characters = some characters.length then
              some ⟨"", none⟩
            else none
        | some (some rest) =>
            match authorityOf? rest with
            | none | some 0 => none
            | some length => ofPath? (rest.drop length)

/-- The path with the query, or the path alone. -/
def full (target : RequestTarget) : String :=
  target.pathAndQuery.getD target.path

end RequestTarget

/-! ### Requests -/

structure Request where
  method : String
  target : RequestTarget
  /-- Names in lower case with their values, in the order they came. -/
  headers : List (String × HeaderValue)
deriving Repr

def Request.values (request : Request) (name : String) : List HeaderValue :=
  (request.headers.filter fun header => header.1 = name).map Prod.snd

end Gatekeeper.Http
