import Gatekeeper.Text.Utf8
import Gatekeeper.Text.Blank
import Gatekeeper.Text.DateTime

/-!
# DER values

Two readers. `Value.readAll?` reads any sequence of values and keeps what a key
search looks at: sequences, object identifiers and strings of bits or octets.
`readExact?` reads one value of a known tag and refuses every length that could
be written shorter.
-/

namespace Gatekeeper.Der

open Gatekeeper.Text

inductive Value where
  | sequence (items : List Value)
  | identifier (arcs : List Nat)
  | bits (bytes : List UInt8)
  | octets (bytes : List UInt8)
  | other
deriving Repr

/-- A number in groups of seven bits, the last group without the high bit. -/
def readBase128? (value : Nat) : List UInt8 → Option (Nat × List UInt8)
  | [] => none
  | byte :: rest =>
      let next := value * 128 + byte.toNat % 128
      if byte.toNat < 128 then some (next, rest) else readBase128? next rest

def readArcs? : Nat → List UInt8 → Option (List Nat)
  | _, [] => some []
  | 0, _ :: _ => none
  | fuel + 1, bytes =>
      (readBase128? 0 bytes).bind fun (arc, rest) =>
        (readArcs? fuel rest).map (arc :: ·)

/-- The arcs of an object identifier; the first two share a byte. -/
def identifierArcs? : List UInt8 → Option (List Nat)
  | [] => none
  | first :: rest =>
      let code := first.toNat
      let lead := if code < 40 then 0 else if code < 80 then 1 else 2
      (readArcs? rest.length rest).map fun arcs =>
        lead :: (code - 40 * lead) :: arcs

/-- The length in front of a value's body. -/
def readLength? : List UInt8 → Option (Nat × List UInt8)
  | [] => none
  | byte :: rest =>
      if byte.toNat < 128 then
        some (byte.toNat, rest)
      else
        let count := byte.toNat - 128
        if 8 < count ∨ rest.length < count then
          none
        else
          some (digitsValue 256 ((rest.take count).map UInt8.toNat),
            rest.drop count)

/-- Whether a date and a time of day exist. -/
def isMoment (year month day hour minute second : Nat) : Bool :=
  1 ≤ month && month ≤ 12 && 1 ≤ day && day ≤ daysIn year month &&
    hour < 24 && minute < 60 && second < 60

def twoDigits (characters : List Char) (start : Nat) : Nat :=
  decimalValue ((characters.drop start).take 2)

def characters (bytes : List UInt8) : List Char :=
  bytes.map fun byte => Char.ofNat byte.toNat

/-- A time with a two digit year. -/
def isShortTime (bytes : List UInt8) : Bool :=
  let text := characters bytes
  let year := twoDigits text 0
  text.length = 13 && (text.take 12).all isDigitAscii && text.drop 12 = ['Z'] &&
    isMoment (if 50 ≤ year then 1900 + year else 2000 + year) (twoDigits text 2)
      (twoDigits text 4) (twoDigits text 6) (twoDigits text 8)
        (twoDigits text 10)

/-- A time with a four digit year and perhaps a fraction of the second. -/
def isLongTime (bytes : List UInt8) : Bool :=
  let text := characters bytes
  let fraction := (text.drop 14).dropLast
  15 ≤ text.length && (text.take 14).all isDigitAscii &&
    text.getLast? = some 'Z' && (fraction.isEmpty ||
      (fraction.head? = some '.' && (fraction.drop 1).all isDigitAscii &&
        1 < fraction.length && fraction.length ≤ 10)) &&
    isMoment (twoDigits text 0 * 100 + twoDigits text 2) (twoDigits text 4)
      (twoDigits text 6) (twoDigits text 8) (twoDigits text 10)
        (twoDigits text 12)

def isPrintable (byte : UInt8) : Bool :=
  let character := Char.ofNat byte.toNat
  isAlphanumericAscii character || " '()+,-./:=?".toList.contains character

/-- A value of a universal tag other than the sequence. -/
def universal? (tag : Nat) (body : List UInt8) : Option Value :=
  if tag = 0x01 then
    if body.length = 1 then some .other else none
  else if tag = 0x03 then
    match body with
    | [] => some (.bits [])
    | unused :: bytes =>
        if bytes.length * 8 < unused.toNat then none else some (.bits bytes)
  else if tag = 0x04 then
    some (.octets body)
  else if tag = 0x06 then
    (identifierArcs? body).map .identifier
  else if tag = 0x0C ∨ tag = 0x14 ∨ tag = 0x1C then
    (Utf8.decode? body).map fun _ => .other
  else if tag = 0x13 then
    if body.all isPrintable then some .other else none
  else if tag = 0x16 then
    if body.all fun byte => byte.toNat < 128 then some .other else none
  else if tag = 0x17 then
    if isShortTime body then some .other else none
  else if tag = 0x18 then
    if isLongTime body then some .other else none
  else
    some .other

/-- The tag number of a value, after the byte that starts it. -/
def readTag? (first : UInt8) (rest : List UInt8) : Option (Nat × List UInt8) :=
  if first.toNat % 32 = 31 then readBase128? 0 rest
  else some (first.toNat % 32, rest)

/-- The values of a byte string; at least one. Every value takes a byte of the
string, so the length bounds the recursion. -/
def Value.readAll? : Nat → List UInt8 → Option (List Value)
  | 0, _ => none
  | _ + 1, [] => none
  | fuel + 1, first :: rest => do
      let (tag, afterTag) ← readTag? first rest
      let (length, afterLength) ← readLength? afterTag
      if afterLength.length < length then
        none
      else
        let body := afterLength.take length
        let value ←
          if first.toNat / 64 ≠ 0 then
            some .other
          else if tag = 0x10 then
            (readAll? fuel body).map .sequence
          else if tag = 0x11 then
            (readAll? fuel body).map fun _ => .other
          else
            universal? tag body
        match afterLength.drop length with
        | [] => some [value]
        | next :: more => (readAll? fuel (next :: more)).map (value :: ·)

/-! ### Searching -/

mutual

/-- The first object identifier, depth first, that is one of a list. -/
def Value.findIdentifier? (wanted : List (List Nat)) : Value → Option (List Nat)
  | .sequence items => findIdentifierIn? wanted items
  | .identifier arcs => if wanted.contains arcs then some arcs else none
  | _ => none

def findIdentifierIn? (wanted : List (List Nat)) :
    List Value → Option (List Nat)
  | [] => none
  | value :: values =>
      match value.findIdentifier? wanted with
      | some arcs => some arcs
      | none => findIdentifierIn? wanted values

end

mutual

/-- The content of the first string of bits or octets, depth first. -/
def Value.findContent? : Value → Option (List UInt8)
  | .sequence items => findContentIn? items
  | .bits bytes => some bytes
  | .octets bytes => some bytes
  | _ => none

def findContentIn? : List Value → Option (List UInt8)
  | [] => none
  | value :: values =>
      match value.findContent? with
      | some bytes => some bytes
      | none => findContentIn? values

end

/-! ### Exact reading -/

/-- The body of a value with a given tag, and what follows it. -/
def readExact? (tag : Nat) : List UInt8 → Option (List UInt8 × List UInt8)
  | [] => none
  | first :: rest =>
      if first.toNat ≠ tag then
        none
      else
        (readLength? rest).bind fun (length, body) =>
          let written := rest.length - body.length
          let shortest :=
            if length < 0x80 then 1 else if length < 0x100 then 2
            else if length < 0x10000 then 3
            else if length < 0x1000000 then 4 else 5
          if written ≠ shortest ∨ body.length < length then
            none
          else
            some (body.take length, body.drop length)

/-- The bytes of a positive integer without a leading zero, and what follows
it. -/
def readPositive? (bytes : List UInt8) : Option (List UInt8 × List UInt8) :=
  (readExact? 0x02 bytes).bind fun (body, rest) =>
    match body with
    | [] => none
    | [byte] =>
        if 0 < byte.toNat ∧ byte.toNat < 128 then some ([byte], rest) else none
    | first :: second :: more =>
        if first = 0 then
          if second.toNat < 128 then none else some (second :: more, rest)
        else if first.toNat < 128 then
          some (body, rest)
        else
          none

end Gatekeeper.Der
