import Gatekeeper.Text.Utf8
import Gatekeeper.Url.Domain

/-!
# Hosts of URLs

A host is a domain or a numeric address. A domain is kept in lower case and in
its Unicode form; a domain whose last label is a number has to be an address of
version 4.
-/

namespace Gatekeeper

open Gatekeeper.Text

inductive Host where
  | domain (name : String)
  | ipv4 (address : Nat)
  | ipv6 (pieces : List Nat)
  /-- The host of a scheme that sets no rules for hosts. -/
  | opaqueName (name : String)
deriving DecidableEq, Repr

namespace Host

def text : Host → String
  | domain name => name
  | opaqueName name => name
  | ipv4 address =>
      ".".intercalate ([24, 16, 8, 0].map fun shift =>
        toString (address / Nat.pow 2 shift % 256))
  | ipv6 pieces =>
      ":".intercalate (pieces.map fun piece =>
        String.ofList (Nat.toDigits 16 piece))

/-! ### Version 4 addresses -/

def digitsOf? (base : Nat) (digits : List Char) : Option (List Nat) :=
  digits.mapM fun character =>
    (hexDigit? character).bind fun digit =>
      if digit < base then some digit else none

/-- The number that a part of an address writes in octal, decimal or
hexadecimal. -/
def partNumber? (part : List Char) : Option Nat :=
  match part with
  | [] => none
  | '0' :: 'x' :: digits => (digitsOf? 16 digits).map (digitsValue 16)
  | '0' :: 'X' :: digits => (digitsOf? 16 digits).map (digitsValue 16)
  | '0' :: digit :: digits =>
      (digitsOf? 8 (digit :: digits)).map (digitsValue 8)
  | digits => (digitsOf? 10 digits).map (digitsValue 10)

/-- The labels of a domain. An empty one at the end does not count. -/
def labels (domain : List Char) : List (List Char) :=
  let all := splitAll (· = '.') domain
  if 1 < all.length ∧ all.getLast? = some [] then all.dropLast else all

def endsInNumber (domain : List Char) : Bool :=
  match (labels domain).getLast? with
  | none => false
  | some last =>
      (!last.isEmpty && last.all isDigitAscii) || (partNumber? last).isSome

/-- The address of up to four numbers. The last one fills the bytes that the
others leave. -/
def ipv4? (domain : List Char) : Option Nat :=
  ((labels domain).mapM partNumber?).bind fun numbers =>
    let leading := numbers.dropLast
    let last := numbers.getLast?.getD 0
    let limit := Nat.pow 256 (4 - leading.length)
    if 4 < numbers.length ∨ leading.any (255 < ·) ∨ limit ≤ last then
      none
    else
      some (digitsValue 256 leading * limit + last)

/-! ### Version 6 addresses -/

/-- One to four hexadecimal digits. -/
def piece? (digits : List Char) : Option Nat :=
  if digits.isEmpty ∨ 4 < digits.length then none
  else (digitsOf? 16 digits).map (digitsValue 16)

/-- A decimal byte without leading zeros. -/
def byte? (digits : List Char) : Option Nat :=
  match digits with
  | [] => none
  | ['0'] => some 0
  | '0' :: _ => none
  | _ =>
      if 3 < digits.length ∨ !digits.all isDigitAscii then none
      else if decimalValue digits < 256 then some (decimalValue digits)
      else none

/-- The pieces of parts between colons. The last part may be a version 4
address. -/
def pieces? : List (List Char) → Option (List Nat)
  | [] => some []
  | [last] =>
      if last.contains '.' then
        match (splitAll (· = '.') last).mapM byte? with
        | some [a, b, c, d] => some [a * 256 + b, c * 256 + d]
        | _ => none
      else
        (piece? last).map ([·])
  | part :: parts =>
      match piece? part, pieces? parts with
      | some piece, some pieces => some (piece :: pieces)
      | _, _ => none

def splitPair? : List Char → Option (List Char × List Char)
  | ':' :: ':' :: rest => some ([], rest)
  | character :: rest =>
      (splitPair? rest).map fun (before, after) => (character :: before, after)
  | [] => none

def pieceList? (text : List Char) : Option (List Nat) :=
  if text.isEmpty then some [] else pieces? (splitAll (· = ':') text)

/-- The eight pieces of an address. A pair of colons stands for at least one
zero. -/
def ipv6? (text : List Char) : Option (List Nat) :=
  match splitPair? text with
  | none =>
      (pieceList? text).bind fun pieces =>
        if pieces.length = 8 then some pieces else none
  | some (before, after) =>
      if before.contains '.' then
        none
      else
        match pieceList? before, pieceList? after with
        | some left, some right =>
            if left.length + right.length < 8 then
              some (left ++ List.replicate (8 - left.length - right.length) 0 ++
                right)
            else
              none
        | _, _ => none

/-! ### Texts -/

def percentDecode : List UInt8 → List UInt8
  | [] => []
  | first :: high :: low :: rest =>
      if first = 0x25 then
        match hexDigit? (Char.ofNat high.toNat),
          hexDigit? (Char.ofNat low.toNat) with
        | some upper, some lower =>
            UInt8.ofNat (upper * 16 + lower) :: percentDecode rest
        | _, _ => first :: percentDecode (high :: low :: rest)
      else
        first :: percentDecode (high :: low :: rest)
  | first :: rest => first :: percentDecode rest

def ofText? (text : List Char) : Option Host :=
  match text with
  | '[' :: rest =>
      if rest.getLast? = some ']' then (ipv6? rest.dropLast).map .ipv6 else none
  | _ =>
      (Utf8.decode? (percentDecode (Utf8.encode (String.ofList text)))).bind
        fun decoded =>
        (Domain.fold? decoded.toList).bind fun domain =>
          if domain.isEmpty then none
          else if endsInNumber domain then (ipv4? domain).map .ipv4
          else some (.domain (String.ofList domain))

def ofOpaqueText? (text : List Char) : Option Host :=
  match text with
  | '[' :: rest =>
      if rest.getLast? = some ']' then (ipv6? rest.dropLast).map .ipv6 else none
  | _ =>
      if text.any Domain.isForbidden then none
      else some (.opaqueName (String.ofList text))

end Host

end Gatekeeper
