import Gatekeeper.Json.Basic

/-!
# Writing JSON

The compact form has no space outside strings. In a string only the quote, the
backslash and the characters below U+0020 are escaped, so a written value never
holds a line feed.
-/

namespace Gatekeeper.Json

open Gatekeeper.Number

/-- A digit of a Unicode escape. -/
def hexCharacter (digit : Nat) : Char :=
  if digit < 10 then Char.ofNat ('0'.toNat + digit)
  else Char.ofNat ('a'.toNat + (digit - 10))

def escapeCharacter (character : Char) : List Char :=
  if character = '"' then ['\\', '"']
  else if character = '\\' then ['\\', '\\']
  else if character.toNat < 0x20 then
    if character = '\n' then ['\\', 'n']
    else if character = '\r' then ['\\', 'r']
    else if character = '\t' then ['\\', 't']
    else if character.toNat = 0x08 then ['\\', 'b']
    else if character.toNat = 0x0C then ['\\', 'f']
    else
      ['\\', 'u', '0', '0', hexCharacter (character.toNat / 16),
        hexCharacter (character.toNat % 16)]
  else [character]

def quote (text : String) : List Char :=
  '"' :: text.toList.flatMap escapeCharacter ++ ['"']

def renderNumber : JsonNumber → List Char
  | .natural value => Nat.toDigits 10 value
  | .negative magnitude => '-' :: Nat.toDigits 10 magnitude
  | .double value => value.render

mutual

def render : Json → List Char
  | .null => ['n', 'u', 'l', 'l']
  | .boolean true => ['t', 'r', 'u', 'e']
  | .boolean false => ['f', 'a', 'l', 's', 'e']
  | .number value => renderNumber value
  | .string text => quote text
  | .array [] => ['[', ']']
  | .array (item :: items) => '[' :: item.render ++ renderItems items
  | .object [] => ['{', '}']
  | .object ((name, value) :: members) =>
      '{' :: quote name ++ ':' :: value.render ++ renderMembers members

def renderItems : List Json → List Char
  | [] => [']']
  | item :: items => ',' :: item.render ++ renderItems items

def renderMembers : List (String × Json) → List Char
  | [] => ['}']
  | (name, value) :: members =>
      ',' :: quote name ++ ':' :: value.render ++ renderMembers members

end

def compact (json : Json) : String :=
  String.ofList json.render

/-! ### Indented form -/

/-- A line feed and two spaces for each level. -/
def lineBreak (level : Nat) : List Char :=
  '\n' :: List.replicate (2 * level) ' '

mutual

/-- One item or member a line, each level two spaces deeper. -/
def renderIndented (level : Nat) : Json → List Char
  | .null => ['n', 'u', 'l', 'l']
  | .boolean true => ['t', 'r', 'u', 'e']
  | .boolean false => ['f', 'a', 'l', 's', 'e']
  | .number value => renderNumber value
  | .string text => quote text
  | .array [] => ['[', ']']
  | .array (item :: items) =>
      '[' :: lineBreak (level + 1) ++ item.renderIndented (level + 1) ++
        renderIndentedItems level items
  | .object [] => ['{', '}']
  | .object ((name, value) :: members) =>
      '{' :: lineBreak (level + 1) ++ quote name ++ ':' :: ' ' ::
        value.renderIndented (level + 1) ++ renderIndentedMembers level members

def renderIndentedItems (level : Nat) : List Json → List Char
  | [] => lineBreak level ++ [']']
  | item :: items =>
      ',' :: lineBreak (level + 1) ++ item.renderIndented (level + 1) ++
        renderIndentedItems level items

def renderIndentedMembers (level : Nat) : List (String × Json) → List Char
  | [] => lineBreak level ++ ['}']
  | (name, value) :: members =>
      ',' :: lineBreak (level + 1) ++ quote name ++ ':' :: ' ' ::
        value.renderIndented (level + 1) ++ renderIndentedMembers level members

end

def indented (json : Json) : String :=
  String.ofList (json.renderIndented 0)

end Gatekeeper.Json
