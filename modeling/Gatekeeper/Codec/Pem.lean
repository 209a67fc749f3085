import Gatekeeper.Codec.Base64
import Gatekeeper.Text.Blank

/-!
# PEM blocks

A block is a tag and the bytes between its begin and end lines. The first block
of a text counts, whatever stands around it. Headers before a blank line are
read over; each has a colon.
-/

namespace Gatekeeper.Pem

open Gatekeeper.Text

structure Block where
  tag : String
  content : List UInt8
deriving Repr

/-- Look for a marker from left to right. A character that breaks a partial
match is read over with it. -/
def scan (marker : List Char) : List Char → List Char → List Char →
    Option (List Char × List Char)
  | _, [], rest => some ([], rest)
  | _, _ :: _, [] => none
  | matched, expected :: wanted, character :: rest =>
      if character = expected then
        scan marker (matched ++ [character]) wanted rest
      else
        (scan marker [] marker rest).map fun (before, after) =>
          (matched ++ character :: before, after)

def splitAt? (marker : String) (text : List Char) :
    Option (List Char × List Char) :=
  scan marker.toList [] marker.toList text

def isSpace (character : Char) : Bool :=
  character = ' ' || character = '\t' || character = '\n' || character = '\r'

/-- The lines of a text. A line ends at a line feed, with or without a carriage
return. -/
def lines (text : List Char) : List (List Char) :=
  let ended := splitAll (· = '\n') text
  let parts := if ended.getLast? = some [] then ended.dropLast else ended
  parts.map fun line =>
    match line.getLast? with
    | some '\r' => line.dropLast
    | _ => line

/-- The headers and the data of a body. A blank line ends the headers. -/
def headersAndData (body : List Char) : List Char × List Char :=
  match splitAt? "\n\n" body with
  | some parts => parts
  | none =>
      match splitAt? "\r\n\r\n" body with
      | some parts => parts
      | none => ([], body)

def headersAreValid (headers : List Char) : Bool :=
  (lines headers).all fun line => line.contains ':'

/-- What stands at the first markers of a text, and the text behind them: a
block, or nothing where the markers do not fit or the data cannot be read. -/
def Block.next? (text : List Char) : Option (Option Block × List Char) := do
  let (_, afterBegin) ← splitAt? "-----BEGIN " text
  let (tag, afterTag) ← splitAt? "-----" afterBegin
  let (body, afterBody) ← splitAt? "-----END " (afterTag.dropWhile isSpace)
  let (endTag, rest) ← splitAt? "-----" afterBody
  let (headers, data) := headersAndData body
  let letters := ((lines data).map (dropTrailing isBlank)).flatten
  if tag.isEmpty || tag ≠ endTag || !headersAreValid headers then
    some (none, rest)
  else
    some ((Base64.standard.decode? letters).map (Block.mk (String.ofList tag)),
      rest)

def Block.first? (text : String) : Option Block :=
  (Block.next? text.toList).bind Prod.fst

/-- The blocks of a text up to the first one that cannot be read. Every block
takes characters, so the length of the text bounds their number. -/
def Block.upTo : Nat → List Char → List Block
  | 0, _ => []
  | fuel + 1, text =>
      match Block.next? text with
      | some (some block, rest) => block :: Block.upTo fuel rest
      | _ => []

def Block.ofText (text : String) : List Block :=
  Block.upTo text.length text.toList

end Gatekeeper.Pem
