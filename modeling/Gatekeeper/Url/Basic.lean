import Gatekeeper.Url.Host

/-!
# URLs

A URL is read the way browsers read it: blanks around it and line ends within it
do not count, the scheme is taken in lower case, and for the schemes of the web
a backslash is a slash and any number of slashes may stand in front of the host.
-/

namespace Gatekeeper

open Gatekeeper.Text

structure Url where
  scheme : String
  /-- Absent when the URL names no host. -/
  host : Option Host
  /-- Absent when it is the usual one of the scheme. -/
  port : Option Nat
  path : String
  query : Option String
  fragment : Option String
deriving DecidableEq, Repr

namespace Url

/-- The schemes with rules of their own, and their usual ports. -/
def specialPort? (scheme : String) : Option (Option Nat) :=
  [("http", some 80), ("https", some 443), ("ws", some 80), ("wss", some 443),
    ("ftp", some 21), ("file", none)].lookup scheme

def isSpecial (scheme : String) : Bool :=
  (specialPort? scheme).isSome

/-- The text of a URL without what does not count. -/
def cleaned (text : List Char) : List Char :=
  (trimBoth (fun character => character.toNat ≤ 0x20) text).filter
    fun character =>
    character ≠ '\t' && character ≠ '\n' && character ≠ '\r'

def isSchemeCharacter (character : Char) : Bool :=
  isAlphanumericAscii character || character = '+' || character = '-' ||
    character = '.'

/-- The scheme in lower case, and what follows its colon. -/
def splitScheme? (text : List Char) : Option (String × List Char) :=
  match text with
  | [] => none
  | first :: _ =>
      if !isAlphaAscii first then
        none
      else
        match text.dropWhile isSchemeCharacter with
        | ':' :: rest =>
            some (String.ofList ((text.takeWhile isSchemeCharacter).map
              lowerAscii), rest)
        | _ => none

/-- Whether a character ends the part of a URL that names the host. -/
def endsAuthority (special : Bool) (character : Char) : Bool :=
  character = '/' || character = '?' || character = '#' ||
    (special && character = '\\')

def isSlash (special : Bool) (character : Char) : Bool :=
  character = '/' || (special && character = '\\')

/-- Split the host from the port. A colon between brackets belongs to the
host. -/
def splitPort (inBrackets : Bool) : List Char → List Char × Option (List Char)
  | [] => ([], none)
  | character :: rest =>
      if character = ':' && !inBrackets then
        ([], some rest)
      else
        let inBrackets :=
          if character = '[' then true
          else if character = ']' then false else inBrackets
        let (host, port) := splitPort inBrackets rest
        (character :: host, port)

/-- The number of a port. No digits are no port. -/
def portNumber? (digits : List Char) : Option (Option Nat) :=
  if !digits.all isDigitAscii then none
  else if digits.isEmpty then some none
  else if decimalValue digits < 65536 then some (some (decimalValue digits))
  else none

/-- The host and the port of the authority of a URL. -/
def authority? (scheme : String) (text : List Char) :
    Option (Option Host × Option Nat) :=
  let special := isSpecial scheme
  let (userInfo, location) :=
    match splitLast? '@' text with
    | none => ([], text)
    | some parts => parts
  let (hostText, portText) := splitPort false location
  if hostText.isEmpty then
    if special || portText.isSome || !userInfo.isEmpty then none
    else some (none, none)
  else do
    let host ←
      if special then Host.ofText? hostText else Host.ofOpaqueText? hostText
    let port ← portNumber? (portText.getD [])
    some (some host, if port = (specialPort? scheme).join then none else port)

/-! ### Paths -/

def percentEscape (byte : UInt8) : List Char :=
  let digit (value : Nat) : Char :=
    if value < 10 then Char.ofNat ('0'.toNat + value)
    else Char.ofNat ('A'.toNat + value - 10)
  ['%', digit (byte.toNat / 16), digit (byte.toNat % 16)]

/-- Escape the characters of a class, and those beyond ASCII. -/
def escape (inClass : Char → Bool) (text : List Char) : List Char :=
  text.flatMap fun character =>
    if character.toNat ≤ 0x1F || 0x7F ≤ character.toNat ||
      inClass character then
      (Utf8.encodeChar character).flatMap percentEscape
    else
      [character]

def isPathEscaped (character : Char) : Bool :=
  " \"#<>?`\x7b\x7d".toList.contains character

def isQueryEscaped (special : Bool) (character : Char) : Bool :=
  " \"#<>".toList.contains character || (special && character = '\'')

def isFragmentEscaped (character : Char) : Bool :=
  " \"<>`".toList.contains character

/-- Whether a segment stands for the directory it is in, dots perhaps
escaped. -/
def isSingleDot (segment : List Char) : Bool :=
  let folded := segment.map lowerAscii
  folded = ['.'] || folded = ['%', '2', 'e']

def isDoubleDot (segment : List Char) : Bool :=
  ["..", ".%2e", "%2e.", "%2e%2e"].contains
    (String.ofList (segment.map lowerAscii))

/-- Take the segments of a path in order. A double dot takes the one before it
back. -/
def takeSegments : List (List Char) → List (List Char) → List (List Char)
  | done, [] => done
  | done, [last] =>
      if isDoubleDot last then done.dropLast ++ [[]]
      else if isSingleDot last then done ++ [[]]
      else done ++ [last]
  | done, segment :: segments =>
      if isDoubleDot segment then takeSegments done.dropLast segments
      else if isSingleDot segment then takeSegments done segments
      else takeSegments (done ++ [segment]) segments

/-- The path of a URL with slashes in front of its segments. -/
def pathText (special : Bool) (text : List Char) : List Char :=
  match text with
  | [] => if special then ['/'] else []
  | first :: rest =>
      let body := if isSlash special first then rest else first :: rest
      let segments := takeSegments [] (splitAll (isSlash special) body)
      segments.flatMap fun segment => '/' :: escape isPathEscaped segment

/-- Split off the fragment and then the query. -/
def splitTail (text : List Char) :
    List Char × Option (List Char) × Option (List Char) :=
  let (front, fragment) :=
    match splitFirst? '#' text with
    | none => (text, none)
    | some (front, fragment) => (front, some fragment)
  match splitFirst? '?' front with
  | none => (front, none, fragment)
  | some (path, query) => (path, some query, fragment)

def build (scheme : String) (host : Option Host) (port : Option Nat)
    (path : List Char) (query fragment : Option (List Char)) : Url where
  scheme := scheme
  host := host
  port := port
  path := String.ofList path
  query :=
    query.map fun text =>
      String.ofList (escape (isQueryEscaped (isSpecial scheme)) text)
  fragment :=
    fragment.map fun text => String.ofList (escape isFragmentEscaped text)

/-- A URL from the authority on. -/
def readAuthority? (scheme : String) (text : List Char) : Option Url :=
  let special := isSpecial scheme
  let location := text.takeWhile (!endsAuthority special ·)
  let (path, query, fragment) :=
    splitTail (text.dropWhile (!endsAuthority special ·))
  (authority? scheme location).map fun (host, port) =>
    build scheme host port (pathText special path) query fragment

/-- Whether a text names a drive: a letter and a colon or bar. -/
def isDrive : List Char → Bool
  | [letter, mark] => isAlphaAscii letter && (mark = ':' || mark = '|')
  | _ => false

/-- The local file that a URL of the scheme `file` names. A drive in the place
of the host belongs to the path. -/
def readFile? (text : List Char) : Option Url :=
  match text with
  | first :: second :: rest =>
      if isSlash true first && isSlash true second then
        let location := rest.takeWhile (!endsAuthority true ·)
        let remaining := rest.dropWhile (!endsAuthority true ·)
        let (path, query, fragment) :=
          splitTail (if isDrive location then '/' :: rest else remaining)
        let path := pathText true path
        if location.isEmpty || isDrive location then
          some (build "file" none none path query fragment)
        else
          (Host.ofText? location).map fun host =>
            build "file" (some host) none path query fragment
      else
        let (path, query, fragment) := splitTail text
        some (build "file" none none (pathText true path) query fragment)
  | _ =>
      let (path, query, fragment) := splitTail text
      some (build "file" none none (pathText true path) query fragment)

def read? (text : String) : Option Url :=
  (splitScheme? (cleaned text.toList)).bind fun (scheme, rest) =>
    if scheme = "file" then
      readFile? rest
    else if isSpecial scheme then
      readAuthority? scheme (rest.dropWhile (isSlash true))
    else
      match rest with
      | '/' :: '/' :: location => readAuthority? scheme location
      | '/' :: _ =>
          let (path, query, fragment) := splitTail rest
          some (build scheme none none (pathText false path) query fragment)
      | _ =>
          let (path, query, fragment) := splitTail rest
          some (build scheme none none (escape (fun _ => false) path) query
            fragment)

end Url

end Gatekeeper
