import Gatekeeper.Json.Basic
import Gatekeeper.Text.Blank
import Gatekeeper.Text.Utf8

/-!
# JSON documents

A document is the syntax tree of a JSON text. Its strings and numbers are still
as written, so a member that nobody asks for may hold a lone surrogate or a
number that no double reaches. Taking the value of a document checks those, and
bounds how deep it nests.
-/

namespace Gatekeeper.Json

open Gatekeeper.Number
open Gatekeeper.Text

/-- A part of a string: a symbol, or a sixteen-bit code written as a Unicode
escape. -/
inductive StringUnit where
  | symbol (symbol : Symbol)
  | code (value : Nat)
deriving DecidableEq, Repr

structure NumberLiteral where
  negative : Bool
  whole : List Nat
  fraction : Option (List Nat)
  exponent : Option (Bool × List Nat)
deriving DecidableEq, Repr

inductive Document where
  | null
  | boolean (value : Bool)
  | number (literal : NumberLiteral)
  | string (units : List StringUnit)
  | array (items : List Document)
  | object (members : List (List StringUnit × Document))
deriving Repr, Inhabited

/-! ### Reading -/

def isSpace (symbol : Symbol) : Bool :=
  symbol = some ' ' || symbol = some '\n' || symbol = some '\t' ||
    symbol = some '\r'

def skipSpace (input : List Symbol) : List Symbol :=
  input.dropWhile isSpace

def readDigits : List Symbol → List Nat × List Symbol
  | some character :: rest =>
      if isDigitAscii character then
        let (digits, after) := readDigits rest
        ((character.toNat - '0'.toNat) :: digits, after)
      else
        ([], some character :: rest)
  | input => ([], input)

/-- The fraction of a number, when there is one. -/
def readFraction? : List Symbol → Option (Option (List Nat) × List Symbol)
  | some '.' :: rest =>
      match readDigits rest with
      | ([], _) => none
      | (digits, after) => some (some digits, after)
  | input => some (none, input)

/-- The exponent of a number, when there is one. -/
def readExponent? (input : List Symbol) :
    Option (Option (Bool × List Nat) × List Symbol) :=
  match input with
  | some character :: rest =>
      if character = 'e' ∨ character = 'E' then
        let (negative, unsigned) :=
          match rest with
          | some '+' :: after => (false, after)
          | some '-' :: after => (true, after)
          | after => (false, after)
        match readDigits unsigned with
        | ([], _) => none
        | (digits, after) => some (some (negative, digits), after)
      else
        some (none, input)
  | _ => some (none, input)

/-- A number without its sign. A leading zero stands alone. -/
def readUnsigned? (negative : Bool) (input : List Symbol) :
    Option (NumberLiteral × List Symbol) :=
  match readDigits input with
  | ([], _) => none
  | (0 :: _ :: _, _) => none
  | (whole, afterWhole) =>
      (readFraction? afterWhole).bind fun (fraction, afterFraction) =>
        (readExponent? afterFraction).map fun (exponent, rest) =>
          (⟨negative, whole, fraction, exponent⟩, rest)

def readCode? : List Symbol → Option (Nat × List Symbol)
  | some first :: some second :: some third :: some fourth :: rest =>
      match hexDigit? first, hexDigit? second, hexDigit? third,
        hexDigit? fourth with
      | some a, some b, some c, some d =>
          some (((a * 16 + b) * 16 + c) * 16 + d, rest)
      | _, _, _, _ => none
  | _ => none

/-- The character of an escape other than a Unicode one. -/
def simpleEscape? : Char → Option Char
  | '"' => some '"'
  | '\\' => some '\\'
  | '/' => some '/'
  | 'b' => some (Char.ofNat 0x08)
  | 'f' => some (Char.ofNat 0x0C)
  | 'n' => some '\n'
  | 'r' => some '\r'
  | 't' => some '\t'
  | _ => none

def readString? : List Symbol → Option (List StringUnit × List Symbol)
  | [] => none
  | some '"' :: rest => some ([], rest)
  | some '\\' :: some 'u' :: first :: second :: third :: fourth :: rest =>
      match readCode? [first, second, third, fourth] with
      | none => none
      | some (code, _) =>
          (readString? rest).map fun (units, after) =>
            (.code code :: units, after)
  | some '\\' :: some escape :: rest =>
      match simpleEscape? escape with
      | none => none
      | some character =>
          (readString? rest).map fun (units, after) =>
            (.symbol (some character) :: units, after)
  | some character :: rest =>
      if character = '\\' ∨ character.toNat < 0x20 then
        none
      else
        (readString? rest).map fun (units, after) =>
          (.symbol (some character) :: units, after)
  | none :: rest =>
      (readString? rest).map fun (units, after) =>
        (.symbol none :: units, after)

mutual

/-- A value at the start of a text, and the rest. Every step of the recursion
reads a symbol, so the number of symbols bounds it. -/
def readValue? : Nat → List Symbol → Option (Document × List Symbol)
  | 0, _ => none
  | fuel + 1, input =>
      match skipSpace input with
      | some 'n' :: some 'u' :: some 'l' :: some 'l' :: rest =>
          some (.null, rest)
      | some 't' :: some 'r' :: some 'u' :: some 'e' :: rest =>
          some (.boolean true, rest)
      | some 'f' :: some 'a' :: some 'l' :: some 's' :: some 'e' :: rest =>
          some (.boolean false, rest)
      | some '"' :: rest =>
          (readString? rest).map fun (units, after) => (.string units, after)
      | some '[' :: rest =>
          match skipSpace rest with
          | some ']' :: after => some (.array [], after)
          | items =>
              (readItems? fuel items).map fun (items, after) =>
                (.array items, after)
      | some '\x7b' :: rest =>
          match skipSpace rest with
          | some '\x7d' :: after => some (.object [], after)
          | members =>
              (readMembers? fuel members).map fun (members, after) =>
                (.object members, after)
      | some '-' :: rest =>
          (readUnsigned? true rest).map fun (literal, after) =>
            (.number literal, after)
      | rest =>
          (readUnsigned? false rest).map fun (literal, after) =>
            (.number literal, after)

/-- The items of an array up to its bracket; at least one. -/
def readItems? : Nat → List Symbol → Option (List Document × List Symbol)
  | 0, _ => none
  | fuel + 1, input =>
      match readValue? fuel input with
      | none => none
      | some (item, rest) =>
          match skipSpace rest with
          | some ']' :: after => some ([item], after)
          | some ',' :: more =>
              (readItems? fuel more).map fun (items, after) =>
                (item :: items, after)
          | _ => none

/-- The members of an object up to its brace; at least one. -/
def readMembers? : Nat → List Symbol →
    Option (List (List StringUnit × Document) × List Symbol)
  | 0, _ => none
  | fuel + 1, input =>
      match skipSpace input with
      | some '"' :: rest =>
          match readString? rest with
          | none => none
          | some (name, afterName) =>
              match skipSpace afterName with
              | some ':' :: valueText =>
                  match readValue? fuel valueText with
                  | none => none
                  | some (value, rest) =>
                      match skipSpace rest with
                      | some '\x7d' :: after => some ([(name, value)], after)
                      | some ',' :: more =>
                          (readMembers? fuel more).map fun (members, after) =>
                            ((name, value) :: members, after)
                      | _ => none
              | _ => none
      | _ => none

end

def Document.read? (input : List Symbol) : Option Document :=
  match readValue? (input.length + 1) input with
  | some (document, rest) =>
      match skipSpace rest with
      | [] => some document
      | _ :: _ => none
  | none => none

/-! ### Values of documents -/

def isHighSurrogate (code : Nat) : Bool := 0xD800 ≤ code && code < 0xDC00

def isLowSurrogate (code : Nat) : Bool := 0xDC00 ≤ code && code < 0xE000

/-- The characters of a string. Surrogates come in pairs. -/
def unitsCharacters? : List StringUnit → Option (List Char)
  | [] => some []
  | .symbol none :: _ => none
  | .symbol (some character) :: rest =>
      (unitsCharacters? rest).map (character :: ·)
  | .code high :: .code low :: rest =>
      if isHighSurrogate high then
        if isLowSurrogate low then
          (unitsCharacters? rest).map
            (Char.ofNat
              (0x10000 + (high - 0xD800) * 0x400 + (low - 0xDC00)) :: ·)
        else
          none
      else if isLowSurrogate high then
        none
      else
        (unitsCharacters? (.code low :: rest)).map (Char.ofNat high :: ·)
  | .code code :: rest =>
      if isHighSurrogate code || isLowSurrogate code then
        none
      else
        (unitsCharacters? rest).map (Char.ofNat code :: ·)

def unitsText? (units : List StringUnit) : Option String :=
  (unitsCharacters? units).map String.ofList

/-- The greatest natural number of 64 bits. -/
def maxNatural : Nat := 0xFFFFFFFFFFFFFFFF

/-- Read on digits while the number stays within `maxNatural`; the digits left
over only count. -/
def significandOf (start : Nat) : List Nat → Nat × List Nat
  | [] => (start, [])
  | digit :: rest =>
      if start * 10 + digit ≤ maxNatural then
        significandOf (start * 10 + digit) rest
      else
        (start, digit :: rest)

namespace NumberLiteral

/-- The significand and the power of ten that a literal writes before its
exponent. Digits that do not fit the significand are dropped: those before the
point keep their place in the power. -/
def significand (literal : NumberLiteral) : Nat × Int :=
  let (whole, dropped) := significandOf 0 literal.whole
  let fraction := literal.fraction.getD []
  let (significand, unread) := significandOf whole fraction
  (significand, (dropped.length : Int) -
    ((fraction.length - unread.length : Nat) : Int))

def isWhole (literal : NumberLiteral) : Bool :=
  literal.fraction.isNone && literal.exponent.isNone

/-- The double of a literal, unless it is too large for one. -/
def double? (literal : NumberLiteral) : Option Double :=
  let (significand, power) := literal.significand
  let exponent : Int :=
    match literal.exponent with
    | none => 0
    | some (true, digits) => -(digitsValue 10 digits : Int)
    | some (false, digits) => digitsValue 10 digits
  (Magnitude.ofDecimal? significand (power + exponent)).map
    (⟨literal.negative, ·⟩)

/-- A whole number is exact when it fits 64 bits, and minus zero is a double. -/
def value? (literal : NumberLiteral) : Option JsonNumber :=
  let whole := digitsValue 10 literal.whole
  if literal.isWhole && !literal.negative && whole ≤ maxNatural then
    some (.natural whole)
  else if literal.isWhole && literal.negative && 0 < whole &&
    whole ≤ 0x8000000000000000 then
    some (.negative whole)
  else
    literal.double?.map .double

end NumberLiteral

namespace Document

mutual

/-- The value of a document that nests at most `depth` levels. Of members of one
name the last counts. -/
def value? (depth : Nat) : Document → Option Json
  | .null => some .null
  | .boolean value => some (.boolean value)
  | .number literal => literal.value?.map .number
  | .string units => (unitsText? units).map .string
  | .array items =>
      match depth with
      | 0 => none
      | depth + 1 => (itemValues? depth items).map .array
  | .object members =>
      match depth with
      | 0 => none
      | depth + 1 => (memberValues? depth [] members).map .object

def itemValues? (depth : Nat) : List Document → Option (List Json)
  | [] => some []
  | item :: items =>
      match item.value? depth, itemValues? depth items with
      | some value, some values => some (value :: values)
      | _, _ => none

def memberValues? (depth : Nat) (read : Members) :
    List (List StringUnit × Document) → Option Members
  | [] => some read
  | (name, member) :: members =>
      match unitsText? name, member.value? depth with
      | some name, some value =>
          memberValues? depth (read.insert name value) members
      | _, _ => none

end

def maxDepth : Nat := 127

def text? : Document → Option String
  | .string units => unitsText? units
  | _ => none

/-- The text of an optional member: a missing member and null are no text. -/
def optionalText? : Option Document → Option (Option String)
  | none => some none
  | some .null => some none
  | some document => document.text?.map some

def texts? : Document → Option (List String)
  | .array items => items.mapM text?
  | _ => none

def optionalTexts? : Option Document → Option (Option (List String))
  | none => some none
  | some .null => some none
  | some document => document.texts?.map some

/-- A choice among names: the name as a string, or as the one member of an
object, with null. -/
def choice? : Document → Option String
  | .string units => unitsText? units
  | .object [(name, .null)] => unitsText? name
  | _ => none

/-- The names and values of the members of an object, in written order. -/
def namedMembers? :
    List (List StringUnit × Document) → Option (List (String × Document))
  | [] => some []
  | (name, member) :: members =>
      match unitsText? name, namedMembers? members with
      | some name, some named => some ((name, member) :: named)
      | _, _ => none

/-- Whether a name is given more than once. -/
def isRepeated (members : List (String × Document)) (name : String) : Bool :=
  1 < (members.filter fun member => member.1 = name).length

/-- The named parts of a record: the members of an object, none of the known
names given twice, or the items of an array in the order of the known names. -/
def record? (known : List String) : Document → Option (List (String × Document))
  | .object members =>
      (namedMembers? members).bind fun named =>
        if known.any (isRepeated named) then none else some named
  | .array items =>
      if items.length ≤ known.length then some (known.zip items) else none
  | _ => none

end Document

end Gatekeeper.Json
