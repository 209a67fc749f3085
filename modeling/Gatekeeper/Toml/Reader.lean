import Gatekeeper.Number.Double
import Gatekeeper.Text.Blank
import Gatekeeper.Text.DateTime
import Gatekeeper.Toml.Basic

/-!
# Reading TOML

A reader of TOML 1.0 documents. Each function reads its construct at the start
of a text and gives what it read with the rest of the text, or nothing where the
text breaks the grammar.
-/

namespace Gatekeeper.Toml

open Gatekeeper.Text

def isSpace (character : Char) : Bool :=
  character = ' ' || character = '\t'

def skipSpace (text : List Char) : List Char :=
  text.dropWhile isSpace

/-- The characters of comments and of strings on one line: no control character
but the tab. -/
def isLineCharacter (character : Char) : Bool :=
  character = '\t' || (0x20 ≤ character.toNat && character.toNat ≠ 0x7F)

/-- Skip spaces, line ends and comments. -/
def skipGaps? (inComment : Bool) : List Char → Option (List Char)
  | [] => some []
  | '\n' :: rest => skipGaps? false rest
  | '\r' :: '\n' :: rest => skipGaps? false rest
  | character :: rest =>
      if inComment then
        if isLineCharacter character then skipGaps? true rest else none
      else if isSpace character then skipGaps? false rest
      else if character = '#' then skipGaps? true rest
      else some (character :: rest)

/-- What follows the end of a line, which spaces and a comment may precede. -/
def endLine? (text : List Char) : Option (List Char) :=
  let rest := skipSpace text
  let afterComment :=
    match rest with
    | '#' :: comment => comment.dropWhile isLineCharacter
    | other => other
  match afterComment with
  | [] => some []
  | '\n' :: rest => some rest
  | '\r' :: '\n' :: rest => some rest
  | _ => none

/-! ### Strings -/

def simpleEscape? : Char → Option Char
  | 'b' => some (Char.ofNat 0x08)
  | 't' => some '\t'
  | 'n' => some '\n'
  | 'f' => some (Char.ofNat 0x0C)
  | 'r' => some '\r'
  | '"' => some '"'
  | '\\' => some '\\'
  | _ => none

/-- The character whose code hexadecimal digits write. -/
def codeCharacter? (digits : List Char) : Option Char :=
  (digits.mapM hexDigit?).bind fun values =>
    let code := digitsValue 16 values
    if code < 0xD800 ∨ (0xDFFF < code ∧ code < 0x110000) then
      some (Char.ofNat code)
    else none

/-- Put a character in front of what a string reader gives. -/
def before (character : Char) : Option (List Char × List Char) →
    Option (List Char × List Char) :=
  Option.map fun (text, rest) => (character :: text, rest)

/-- The rest of a string in double quotes. -/
def readBasic? : List Char → Option (List Char × List Char)
  | [] => none
  | '"' :: rest => some ([], rest)
  | '\\' :: 'u' :: a :: b :: c :: d :: rest =>
      (codeCharacter? [a, b, c, d]).bind fun character =>
        before character (readBasic? rest)
  | '\\' :: 'U' :: a :: b :: c :: d :: e :: f :: g :: h :: rest =>
      (codeCharacter? [a, b, c, d, e, f, g, h]).bind fun character =>
        before character (readBasic? rest)
  | '\\' :: escape :: rest =>
      (simpleEscape? escape).bind fun character =>
        before character (readBasic? rest)
  | character :: rest =>
      if isLineCharacter character && character ≠ '\\' then
        before character (readBasic? rest)
      else
        none

def readLiteral? : List Char → Option (List Char × List Char)
  | [] => none
  | '\'' :: rest => some ([], rest)
  | character :: rest =>
      if isLineCharacter character then before character (readLiteral? rest)
      else none

/-- Up to two quotes that stand right before the closing three belong to the
string. -/
def closeLines (mark : Char) : List Char → List Char × List Char
  | first :: second :: rest =>
      if first = mark then
        if second = mark then ([mark, mark], rest) else ([mark], second :: rest)
      else
        ([], first :: second :: rest)
  | [first] => if first = mark then ([mark], []) else ([], [first])
  | [] => ([], [])

/-- Whether only spaces stand before the end of the line. -/
def endsInSpace (text : List Char) : Bool :=
  match skipSpace text with
  | '\n' :: _ => true
  | '\r' :: '\n' :: _ => true
  | _ => false

/-- The rest of a string in three double quotes. While `joining`, after a
backslash at the end of a line, spaces and line ends are left out. A line end
reads as a line feed. -/
def readBasicLines? (joining : Bool) : List Char →
    Option (List Char × List Char)
  | [] => none
  | '"' :: '"' :: '"' :: rest => some (closeLines '"' rest)
  | '\r' :: '\n' :: rest =>
      if joining then readBasicLines? true rest
      else before '\n' (readBasicLines? false rest)
  | '\n' :: rest =>
      if joining then readBasicLines? true rest
      else before '\n' (readBasicLines? false rest)
  | '\\' :: 'u' :: a :: b :: c :: d :: rest =>
      (codeCharacter? [a, b, c, d]).bind fun character =>
        before character (readBasicLines? false rest)
  | '\\' :: 'U' :: a :: b :: c :: d :: e :: f :: g :: h :: rest =>
      (codeCharacter? [a, b, c, d, e, f, g, h]).bind fun character =>
        before character (readBasicLines? false rest)
  | '\\' :: escape :: rest =>
      if endsInSpace (escape :: rest) then
        readBasicLines? true (escape :: rest)
      else
        (simpleEscape? escape).bind fun character =>
          before character (readBasicLines? false rest)
  | character :: rest =>
      if joining && isSpace character then readBasicLines? true rest
      else if isLineCharacter character && character ≠ '\\' then
        before character (readBasicLines? false rest)
      else none

def readLiteralLines? : List Char → Option (List Char × List Char)
  | [] => none
  | '\'' :: '\'' :: '\'' :: rest => some (closeLines '\'' rest)
  | '\r' :: '\n' :: rest => before '\n' (readLiteralLines? rest)
  | '\n' :: rest => before '\n' (readLiteralLines? rest)
  | character :: rest =>
      if isLineCharacter character then
        before character (readLiteralLines? rest)
      else none

/-- Leave out a line end right after the opening quotes. -/
def skipFirstLineEnd : List Char → List Char
  | '\n' :: rest => rest
  | '\r' :: '\n' :: rest => rest
  | text => text

def readString? : List Char → Option (List Char × List Char)
  | '"' :: '"' :: '"' :: rest => readBasicLines? false (skipFirstLineEnd rest)
  | '\'' :: '\'' :: '\'' :: rest => readLiteralLines? (skipFirstLineEnd rest)
  | '"' :: rest => readBasic? rest
  | '\'' :: rest => readLiteral? rest
  | _ => none

/-! ### Keys -/

def isBareCharacter (character : Char) : Bool :=
  isAlphanumericAscii character || character = '_' || character = '-'

/-- One key of a dotted key. -/
def readKey? (text : List Char) : Option (String × List Char) :=
  match text with
  | '"' :: rest =>
      (readBasic? rest).map fun (key, after) => (String.ofList key, after)
  | '\'' :: rest =>
      (readLiteral? rest).map fun (key, after) => (String.ofList key, after)
  | _ =>
      match text.takeWhile isBareCharacter with
      | [] => none
      | key => some (String.ofList key, text.dropWhile isBareCharacter)

/-- How many keys a dotted key has at most, and how deep arrays and inline
tables nest at most. -/
def depthLimit : Nat := 79

/-- The keys of a dotted key. Each takes a character of the text, so the length
bounds them. -/
def readKeyParts? : Nat → List Char → Option (List String × List Char)
  | 0, _ => none
  | fuel + 1, text =>
      (readKey? (skipSpace text)).bind fun (key, rest) =>
        match skipSpace rest with
        | '.' :: more =>
            (readKeyParts? fuel more).map fun (keys, after) =>
              (key :: keys, after)
        | after => some ([key], after)

def readKeys? (text : List Char) : Option (List String × List Char) :=
  (readKeyParts? text.length text).filter fun (keys, _) =>
    keys.length ≤ depthLimit

/-! ### Numbers, truth values and moments -/

/-- The values of digits of a base, an underscore allowed between two of
them. -/
def digits? (base : Nat) : List Char → Option (List Nat)
  | [] => none
  | [last] =>
      (hexDigit? last).bind fun digit =>
        if digit < base then some [digit] else none
  | character :: '_' :: rest =>
      (hexDigit? character).bind fun digit =>
        if digit < base then (digits? base rest).map (digit :: ·) else none
  | character :: rest =>
      (hexDigit? character).bind fun digit =>
        if digit < base then (digits? base rest).map (digit :: ·) else none

/-- A decimal whole number without sign and without leading zeros. -/
def wholeDigits? (text : List Char) : Option (List Nat) :=
  match digits? 10 text with
  | some (0 :: _ :: _) => none
  | digits => digits

/-- A sign and what it stands before. -/
def splitSign : List Char → Bool × List Char
  | '-' :: rest => (true, rest)
  | '+' :: rest => (false, rest)
  | text => (false, text)

def integer? (text : List Char) : Option Int64 :=
  let inRange (value : Int) : Option Int64 :=
    if -(Nat.pow 2 63 : Int) ≤ value ∧ value < (Nat.pow 2 63 : Int) then
      some (Int64.ofInt value)
    else
      none
  match text with
  | '0' :: 'x' :: rest =>
      (digits? 16 rest).bind fun digits => inRange (digitsValue 16 digits)
  | '0' :: 'o' :: rest =>
      (digits? 8 rest).bind fun digits => inRange (digitsValue 8 digits)
  | '0' :: 'b' :: rest =>
      (digits? 2 rest).bind fun digits => inRange (digitsValue 2 digits)
  | _ =>
      let (negative, unsigned) := splitSign text
      (wholeDigits? unsigned).bind fun digits =>
        let value : Int := digitsValue 10 digits
        inRange (if negative then -value else value)

/-- Whether a text is a float that a double can hold. Too large a float is
refused, while one that is too far below zero reads as negative infinity. -/
def isFloat (text : List Char) : Bool :=
  let (negative, unsigned) := splitSign text
  if unsigned = ['i', 'n', 'f'] || unsigned = ['n', 'a', 'n'] then
    true
  else
    let mantissa :=
      unsigned.takeWhile fun character => character ≠ 'e' && character ≠ 'E'
    let exponent :=
      match unsigned.drop mantissa.length with
      | [] => some none
      | _ :: rest =>
          let (shrinks, digits) := splitSign rest
          (digits? 10 digits).map fun digits => some (shrinks, digits)
    let parts :=
      match splitFirst? '.' mantissa with
      | none =>
          (wholeDigits? mantissa).map fun whole =>
            (whole, ([] : List Nat), false)
      | some (whole, fraction) =>
          match wholeDigits? whole, digits? 10 fraction with
          | some whole, some fraction => some (whole, fraction, true)
          | _, _ => none
    match parts, exponent with
    | some (whole, fraction, hasPoint), some exponent =>
        let significand := digitsValue 10 (whole ++ fraction)
        let power : Nat := digitsValue 10 ((exponent.map Prod.snd).getD [])
        let shrinks := (exponent.map Prod.fst).getD false
        (hasPoint || exponent.isSome) &&
          (shrinks || negative || significand = 0 ||
            (power ≤ 400 &&
              (Number.Magnitude.ofQuotient? (significand * Nat.pow 10 power)
                (Nat.pow 10 fraction.length)).isSome))
    | _, _ => false

/-- The value of exactly `count` decimal digits at the start of a text, and the
rest. -/
def readFixed? (count : Nat) (text : List Char) : Option (Nat × List Char) :=
  let digits := text.take count
  if digits.length = count && digits.all isDigitAscii then
    some (decimalValue digits, text.drop count)
  else
    none

def expect? (expected : Char) : List Char → Option (List Char)
  | [] => none
  | character :: rest => if character = expected then some rest else none

def skipDate? (text : List Char) : Option (List Char) := do
  let (year, rest) ← readFixed? 4 text
  let rest ← expect? '-' rest
  let (month, rest) ← readFixed? 2 rest
  let rest ← expect? '-' rest
  let (day, rest) ← readFixed? 2 rest
  if 1 ≤ month ∧ month ≤ 12 ∧ 1 ≤ day ∧ day ≤ daysIn year month then some rest
  else none

def skipTime? (text : List Char) : Option (List Char) := do
  let (hour, rest) ← readFixed? 2 text
  let rest ← expect? ':' rest
  let (minute, rest) ← readFixed? 2 rest
  let rest ← expect? ':' rest
  let (second, rest) ← readFixed? 2 rest
  if hour < 24 ∧ minute < 60 ∧ second ≤ 60 then
    match rest with
    | '.' :: fraction =>
        if (fraction.head?.map isDigitAscii).getD false then
          some (fraction.dropWhile isDigitAscii)
        else
          none
    | _ => some rest
  else
    none

/-- Whether a text is an offset from universal time, or nothing. -/
def isOffset (text : List Char) : Bool :=
  match text with
  | [] => true
  | ['Z'] | ['z'] => true
  | sign :: rest =>
      (sign = '+' || sign = '-') &&
        (match readFixed? 2 rest with
        | some (hour, ':' :: rest) =>
            match readFixed? 2 rest with
            | some (minute, []) => hour < 24 && minute < 60
            | _ => false
        | _ => false)

/-- Whether a text is a date, a time, or both with or without an offset. -/
def isMoment (text : List Char) : Bool :=
  match skipDate? text with
  | some [] => true
  | some (separator :: time) =>
      (separator = 'T' || separator = 't' || separator = ' ') &&
        (match skipTime? time with
        | some rest => isOffset rest
        | none => false)
  | none => skipTime? text = some []

def isScalarCharacter (character : Char) : Bool :=
  isAlphanumericAscii character || character = '+' || character = '-' ||
    character = '_' || character = '.' || character = ':'

/-- A number, truth value or moment, and the rest. A date takes the time behind
one space. -/
def readScalar? (text : List Char) : Option (Value × List Char) :=
  let word := text.takeWhile isScalarCharacter
  let rest := text.dropWhile isScalarCharacter
  let (word, rest) :=
    match skipDate? word, rest with
    | some [], ' ' :: digit :: more =>
        if isDigitAscii digit then
          (word ++ ' ' :: (digit :: more).takeWhile isScalarCharacter,
            (digit :: more).dropWhile isScalarCharacter)
        else
          (word, rest)
    | _, _ => (word, rest)
  if word = ['t', 'r', 'u', 'e'] then some (.boolean true, rest)
  else if word = ['f', 'a', 'l', 's', 'e'] then some (.boolean false, rest)
  else if isMoment word then some (.moment, rest)
  else
    match integer? word with
    | some value => some (.integer value, rest)
    | none => if isFloat word then some (.float, rest) else none

/-! ### Values -/

mutual

/-- A value in which arrays and inline tables nest at most `depth` deep. Every
step of the recursion reads a character, so the length bounds it. -/
def readValue? (depth : Nat) : Nat → List Char → Option (Value × List Char)
  | 0, _ => none
  | fuel + 1, text =>
      match text, depth with
      | '[' :: _, 0 | '\x7b' :: _, 0 => none
      | '[' :: rest, depth + 1 =>
          (skipGaps? false rest).bind fun rest =>
            match rest with
            | ']' :: after => some (.array [], after)
            | _ =>
                (readItems? depth fuel rest).map fun (items, after) =>
                  (.array items, after)
      | '\x7b' :: rest, depth + 1 =>
          match skipSpace rest with
          | '\x7d' :: after => some (.table [], after)
          | rest =>
              (readPairs? depth fuel [] rest).map fun (members, after) =>
                (.table (Draft.finishMembers members), after)
      | '"' :: _, _ | '\'' :: _, _ =>
          (readString? text).map fun (string, after) =>
            (.string (String.ofList string), after)
      | _, _ => readScalar? text

/-- The items of an array up to its bracket; at least one. A comma may stand
behind the last. -/
def readItems? (depth : Nat) : Nat → List Char → Option (List Value × List Char)
  | 0, _ => none
  | fuel + 1, text =>
      match readValue? depth fuel text with
      | none => none
      | some (item, rest) =>
          (skipGaps? false rest).bind fun rest =>
            match rest with
            | ']' :: after => some ([item], after)
            | ',' :: more =>
                (skipGaps? false more).bind fun more =>
                  match more with
                  | ']' :: after => some ([item], after)
                  | _ =>
                      (readItems? depth fuel more).map fun (items, after) =>
                        (item :: items, after)
            | _ => none

/-- The pairs of an inline table up to its brace; at least one. -/
def readPairs? (depth : Nat) :
    Nat → Draft.Members → List Char → Option (Draft.Members × List Char)
  | 0, _, _ => none
  | fuel + 1, members, text =>
      match readKeys? text with
      | some (keys, '=' :: rest) =>
          match readValue? depth fuel (skipSpace rest) with
          | none => none
          | some (value, rest) =>
              (Draft.define keys value members).bind fun members =>
                match skipSpace rest with
                | '\x7d' :: after => some (members, after)
                | ',' :: more => readPairs? depth fuel members (skipSpace more)
                | _ => none
      | _ => none

end

/-! ### Documents -/

/-- A document under construction, and the keys of the header that is open. -/
structure Progress where
  root : Draft.Members
  header : List String

/-- One line with a header or a key and its value, and what follows it. -/
def readLine? (progress : Progress) (text : List Char) :
    Option (Progress × List Char) :=
  match text with
  | '[' :: '[' :: rest =>
      match readKeys? rest with
      | some (keys, ']' :: ']' :: after) => do
          let rest ← endLine? after
          let root ← Draft.openItem keys progress.root
          some (⟨root, keys⟩, rest)
      | _ => none
  | '[' :: rest =>
      match readKeys? rest with
      | some (keys, ']' :: after) => do
          let rest ← endLine? after
          let root ← Draft.openTable keys progress.root
          some (⟨root, keys⟩, rest)
      | _ => none
  | _ =>
      match readKeys? text with
      | some (keys, '=' :: rest) => do
          let (value, after) ←
            readValue? depthLimit text.length (skipSpace rest)
          let rest ← endLine? after
          let root ←
            Draft.change false (fun _ members =>
              Draft.define keys value members)
              progress.header .header progress.root
          some (⟨root, progress.header⟩, rest)
      | _ => none

/-- All lines of a document. Each takes a character, so the length bounds
them. -/
def readLines? : Nat → Progress → List Char → Option Draft.Members
  | 0, _, _ => none
  | fuel + 1, progress, text =>
      match skipGaps? false text with
      | none => none
      | some [] => some progress.root
      | some (first :: rest) =>
          match readLine? progress (first :: rest) with
          | none => none
          | some (progress, rest) => readLines? fuel progress rest

/-- The table that a document writes. A byte order mark may stand in front. -/
def read? (document : String) : Option (List (String × Value)) :=
  let text :=
    match document.toList with
    | '\uFEFF' :: rest => rest
    | text => text
  (readLines? (text.length + 1) ⟨[], []⟩ text).map Draft.finishMembers

/-! ### Decoding -/

namespace Value

/-- The named parts of a record: the members of a table, or the items of an
array in the order of the names. A moment counts as a table that has none of
them. -/
def parts? (names : List String) : Value → Option (List (String × Value))
  | .table members => some members
  | .array items => some (names.zip items)
  | .moment => some []
  | _ => none

def text? : Value → Option String
  | .string text => some text
  | _ => none

def boolean? : Value → Option Bool
  | .boolean value => some value
  | _ => none

def natural? : Value → Option Nat
  | .integer value => if 0 ≤ value then some value.toNatClampNeg else none
  | _ => none

/-- A choice among names: the name, or a table whose one member has the name and
is empty. -/
def choice? : Value → Option String
  | .string text => some text
  | .table [(name, .table [])] => some name
  | .table [(name, .array [])] => some name
  | _ => none

end Value

end Gatekeeper.Toml
