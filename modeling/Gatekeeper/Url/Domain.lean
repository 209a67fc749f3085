import Gatekeeper.Text.Alphanumeric
import Gatekeeper.Text.Blank
import Gatekeeper.Text.Mark
import Gatekeeper.Text.Quoted

/-!
# Domains

A domain is compared in a folded form: invisible characters are left out, full
width forms are their plain ones, and a label that starts with `xn--` is the
label it encodes. Not every character may stand in a domain, and where scripts
that run from the right occur each label has to keep to one direction.
-/

namespace Gatekeeper

open Gatekeeper.Text

namespace Domain

/-! ### Characters -/

/-- The characters that no host holds. -/
def isForbidden (character : Char) : Bool :=
  character.toNat = 0 || "\t\n\r #/:<>?@[\\]^|".toList.contains character

/-- The characters that no domain holds. -/
def isForbiddenInDomain (character : Char) : Bool :=
  isForbidden character || character.toNat < 0x20 || character = '%' ||
    character.toNat = 0x7F

/-- Invisible characters that a domain is read without. -/
def isIgnored (character : Char) : Bool :=
  let code := character.toNat
  code = 0xAD || code = 0x34F || (0x180B ≤ code && code ≤ 0x180D) ||
    code = 0x180F || code = 0x200B || code = 0x2060 || code = 0x2064 ||
    code = 0xFEFF || (0xFE00 ≤ code && code ≤ 0xFE0F) ||
    (0x1BCA0 ≤ code && code ≤ 0x1BCA3) || (0xE0100 ≤ code && code ≤ 0xE01EF)

/-- Runs of visible characters that no domain holds: those that stand for a text
with a space or a delimiter, and blanks of scripts. -/
def refusedRuns : List (Nat × Nat) :=
  [(0xA8, 0xA8), (0xAF, 0xAF), (0xB4, 0xB4), (0xB8, 0xB8), (0x2D8, 0x2DD),
    (0x37A, 0x37A), (0x384, 0x385), (0x115F, 0x1160), (0x1806, 0x1806),
    (0x1FBD, 0x1FBD), (0x1FBF, 0x1FC1), (0x1FCD, 0x1FCF), (0x1FDD, 0x1FDF),
    (0x1FED, 0x1FEE), (0x1FFD, 0x1FFE), (0x2017, 0x2017), (0x2024, 0x2026),
    (0x203E, 0x203E), (0x2047, 0x2049), (0x2100, 0x2101), (0x2105, 0x2106),
    (0x2488, 0x249B), (0x2A74, 0x2A74), (0x2FF0, 0x2FFB), (0x309B, 0x309C),
    (0x3164, 0x3164), (0x33C2, 0x33C2), (0x33C7, 0x33C7), (0x33D8, 0x33D8),
    (0xFC5E, 0xFC63), (0xFDFA, 0xFDFB), (0xFE12, 0xFE13), (0xFE16, 0xFE16),
    (0xFE19, 0xFE19), (0xFE30, 0xFE30), (0xFE47, 0xFE4C), (0xFE52, 0xFE52),
    (0xFE55, 0xFE56), (0xFE5F, 0xFE5F), (0xFE64, 0xFE65), (0xFE68, 0xFE68),
    (0xFE6A, 0xFE6B), (0xFE70, 0xFE70), (0xFE72, 0xFE72), (0xFE74, 0xFE74),
    (0xFE76, 0xFE76), (0xFE78, 0xFE78), (0xFE7A, 0xFE7A), (0xFE7C, 0xFE7C),
    (0xFE7E, 0xFE7E), (0xFFA0, 0xFFA0), (0xFFE3, 0xFFE3), (0xFFFC, 0xFFFD),
    (0x1F100, 0x1F100), (0x2F868, 0x2F868), (0x2F874, 0x2F874),
    (0x2F91F, 0x2F91F), (0x2F95F, 0x2F95F), (0x2F9BF, 0x2F9BF)]

/-- Runs of digits in raised, lowered, circled and styled forms, and the digit
of the first one. -/
def digitForms : List (Nat × Nat × Nat) :=
  [(0xB2, 0xB3, 2), (0xB9, 0xB9, 1), (0x2070, 0x2070, 0), (0x2074, 0x2079, 4),
    (0x2080, 0x2089, 0), (0x2460, 0x2468, 1), (0x24EA, 0x24EA, 0),
    (0x1D7CE, 0x1D7FF, 0), (0x1FBF0, 0x1FBF9, 0)]

def plainDigit? (character : Char) : Option Char :=
  let code := character.toNat
  (digitForms.find? fun (first, last, _) => first ≤ code && code ≤ last).map
    fun (first, _, digit) =>
      Char.ofNat ('0'.toNat + (digit + (code - first)) % 10)

/-- A character of a domain as it is compared: full width forms, digit forms and
full stops as their plain ones, blanks as a space, ASCII letters in lower
case. -/
def foldCharacter (character : Char) : Char :=
  let code := character.toNat
  if code = 0x3002 ∨ code = 0xFF61 then '.'
  else if 0xFF01 ≤ code ∧ code ≤ 0xFF5E then
    lowerAscii (Char.ofNat (code - 0xFEE0))
  else if isBlank character then ' '
  else (plainDigit? character).getD (lowerAscii character)

/-- The characters between which letters are joined or kept apart. -/
def isJoiner (character : Char) : Bool :=
  character.toNat = 0x200C || character.toNat = 0x200D

def isRefused (character : Char) : Bool :=
  let code := character.toNat
  if code < 0x80 then isForbiddenInDomain character
  else
    refusedRuns.any (fun (first, last) => first ≤ code && code ≤ last) ||
      (isHidden character && !isMark character && !isJoiner character)

/-! ### Directions -/

/-- How a character runs. Marks follow the character that they extend. -/
inductive Direction where
  | leftToRight
  | rightToLeft
  /-- The digits that run with scripts from the right. -/
  | rightDigit
  | digit
  | mark
  | neutral
deriving DecidableEq, Repr

def rightDigitRuns : List (Nat × Nat) :=
  [(0x660, 0x669), (0x66B, 0x66C), (0x10D30, 0x10D39), (0x10E60, 0x10E7E)]

/-- The characters of scripts from the right that have no direction of their
own. -/
def undirectedRuns : List (Nat × Nat) :=
  [(0x606, 0x607), (0x609, 0x60A), (0x60C, 0x60C), (0x60E, 0x60F),
    (0x66A, 0x66A), (0x6DE, 0x6DE), (0x6E9, 0x6E9), (0x6F0, 0x6F9),
    (0x7F6, 0x7F9), (0xFB29, 0xFB29), (0xFD3E, 0xFD4F), (0xFDCF, 0xFDCF),
    (0xFDFD, 0xFDFF), (0x1091F, 0x1091F), (0x10B39, 0x10B3F),
    (0x1EEF0, 0x1EEF1)]

def rightToLeftBlocks : List (Nat × Nat) :=
  [(0x590, 0x8FF), (0xFB1D, 0xFDFF), (0xFE70, 0xFEFE), (0x10800, 0x10FFF),
    (0x1E800, 0x1EFFF)]

def direction (character : Char) : Direction :=
  let code := character.toNat
  let within (runs : List (Nat × Nat)) : Bool :=
    runs.any fun (first, last) => first ≤ code && code ≤ last
  if isDigitAscii character || (0x6F0 ≤ code && code ≤ 0x6F9) then .digit
  else if isMark character then .mark
  else if within rightDigitRuns then .rightDigit
  else if within undirectedRuns then .neutral
  else if within rightToLeftBlocks then .rightToLeft
  else if isAlphanumeric character then .leftToRight
  else .neutral

/-- Whether a domain mixes scripts so that its labels have to keep their
direction. -/
def isDirected (domain : List Char) : Bool :=
  domain.any fun character =>
    let found := direction character
    found = .rightToLeft || found = .rightDigit

/-- A label keeps its direction: it starts with a letter, has no letter of the
other direction, and ends with a letter or a digit. From the right, it has
digits of one kind. -/
def keepsDirection (label : List Char) : Bool :=
  let directions := label.map direction
  let last := (directions.reverse.dropWhile (· = .mark)).head?
  match directions.head? with
  | none => true
  | some .rightToLeft =>
      !directions.contains .leftToRight &&
        !(directions.contains .digit && directions.contains .rightDigit) &&
        (last = some .rightToLeft || last = some .digit ||
        last = some .rightDigit)
  | some .leftToRight =>
      !directions.contains .rightToLeft && !directions.contains .rightDigit &&
        (last = some .leftToRight || last = some .digit)
  | some _ => false

/-- Joiners follow a vowel killer; the one that keeps letters apart may also
stand between letters of a script from the right. -/
def joinsWell (before : List Char) : List Char → Bool
  | [] => true
  | character :: rest =>
      let afterKiller := (before.head?.map isVowelKiller).getD false
      let isLetter (text : List Char) : Bool :=
        (text.dropWhile isMark).head?.map direction = some .rightToLeft
      let fits :=
        character.toNat = 0x200C && isLetter before && isLetter rest
      (!isJoiner character || afterKiller || fits) &&
        joinsWell (character :: before) rest

/-! ### Labels -/

/-! A label that starts with `xn--` is the encoding of one with other
characters. -/

/-- The parameters of the encoding that change from digit to digit. -/
structure LabelState where
  code : Nat
  position : Nat
  bias : Nat
  isFirst : Bool
  output : List Char

/-- The bias for distances around `delta`, beyond the one that is given. -/
def biasFrom (bias delta : Nat) : Nat :=
  if 455 < delta then biasFrom (bias + 36) (delta / 35)
  else bias + 36 * delta / (delta + 38)
termination_by delta
decreasing_by omega

/-- The bias after a character was inserted at a distance of `delta`. -/
def adapt (delta count : Nat) (isFirst : Bool) : Nat :=
  let start := if isFirst then delta / 700 else delta / 2
  biasFrom 0 (start + start / count)

def labelDigit? (character : Char) : Option Nat :=
  if isLowerAscii character then some (character.toNat - 'a'.toNat)
  else if isDigitAscii character then some (character.toNat - '0'.toNat + 26)
  else none

/-- One number of variable length: the sum of its weighted digits, and the
rest. -/
def readDelta? (bias : Nat) : Nat → Nat → Nat → List Char →
    Option (Nat × List Char)
  | _, _, _, [] => none
  | place, weight, sum, character :: rest =>
      (labelDigit? character).bind fun digit =>
        let threshold := if place ≤ bias then 1 else min 26 (place - bias)
        let sum := sum + digit * weight
        if Nat.pow 2 32 ≤ sum then none
        else if digit < threshold then some (sum, rest)
        else readDelta? bias (place + 36) (weight * (36 - threshold)) sum rest

/-- Insert the characters that the digits of a label write. -/
def insertCharacters? : Nat → LabelState → List Char → Option (List Char)
  | _, state, [] => some state.output
  | 0, _, _ :: _ => none
  | fuel + 1, state, digits =>
      (readDelta? state.bias 36 1 0 digits).bind fun (delta, rest) =>
        let count := state.output.length + 1
        let position := state.position + delta
        let code := state.code + position / count
        if 0x110000 ≤ code ∨ (0xD800 ≤ code ∧ code ≤ 0xDFFF) then
          none
        else
          let place := position % count
          insertCharacters? fuel
            { code
              position := place + 1
              bias := adapt delta count state.isFirst
              isFirst := false
              output :=
                state.output.take place ++ Char.ofNat code ::
                  state.output.drop place }
            rest

/-- Whether a label is written in the encoded form. -/
def isEncoded (label : List Char) : Bool :=
  ['x', 'n', '-', '-'].isPrefixOf label

/-- The label that an encoded one stands for; it holds a character beyond ASCII,
and is not encoded once more. -/
def decodeLabel? (encoded : List Char) : Option (List Char) :=
  let (plain, digits) :=
    match splitLast? '-' encoded with
    | none => ([], encoded)
    | some parts => parts
  (insertCharacters? digits.length ⟨128, 0, 72, true, plain⟩ digits).bind
    fun label =>
    if !isEncoded label &&
      label.any (fun character => 0x80 ≤ character.toNat) &&
        label.all (fun character =>
          foldCharacter character = character && !isIgnored character &&
            !isRefused character) then
      some label
    else
      none

/-- A label in its folded form. It starts with no mark. -/
def foldLabel? (label : List Char) : Option (List Char) :=
  let decoded :=
    match label with
    | 'x' :: 'n' :: '-' :: '-' :: encoded => decodeLabel? encoded
    | _ => some label
  decoded.filter fun label =>
    !(label.head?.map isMark).getD false && joinsWell [] label

def fold? (domain : List Char) : Option (List Char) :=
  let folded := (domain.filter (!isIgnored ·)).map foldCharacter
  if folded.any isRefused then
    none
  else
    ((splitAll (· = '.') folded).mapM foldLabel?).bind fun labels =>
      let domain := ['.'].intercalate labels
      if isDirected domain && !labels.all keepsDirection then none
      else some domain

end Domain

end Gatekeeper
