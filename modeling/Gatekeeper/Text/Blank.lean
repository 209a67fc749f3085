/-!
# Blank and control characters

The two character classes that identifiers exclude, and trimming of blank ends.
A blank is a character with the Unicode property `White_Space`; a control is one
of category `Cc`.
-/

namespace Gatekeeper.Text

/-- The characters with the property `White_Space`. -/
def isBlank (character : Char) : Bool :=
  let code := character.toNat
  (0x09 ≤ code && code ≤ 0x0D) || code = 0x20 || code = 0x85 || code = 0xA0 ||
    code = 0x1680 || (0x2000 ≤ code && code ≤ 0x200A) || code = 0x2028 ||
    code = 0x2029 || code = 0x202F || code = 0x205F || code = 0x3000

/-- The characters of category `Cc`. -/
def isControl (character : Char) : Bool :=
  let code := character.toNat
  code < 0x20 || (0x7F ≤ code && code ≤ 0x9F)

/-- The number of bytes that characters take in UTF-8. -/
def utf8Length : List Char → Nat
  | [] => 0
  | character :: rest => character.utf8Size + utf8Length rest

/-- Drop the characters of a class from the end. -/
def dropTrailing (inClass : Char → Bool) (characters : List Char) : List Char :=
  (characters.reverse.dropWhile inClass).reverse

/-- Drop the characters of a class from both ends. -/
def trimBoth (inClass : Char → Bool) (characters : List Char) : List Char :=
  dropTrailing inClass (characters.dropWhile inClass)

def trimBlank (text : String) : String :=
  String.ofList (trimBoth isBlank text.toList)

/-- What is left of `text` after `lead`, when it starts so. -/
def stripLead? (lead text : List Char) : Option (List Char) :=
  match lead, text with
  | [], rest => some rest
  | _ :: _, [] => none
  | expected :: lead, character :: text =>
      if expected = character then stripLead? lead text else none

theorem stripLead?_eq_some_iff {lead text rest : List Char} :
    stripLead? lead text = some rest ↔ text = lead ++ rest := by
  induction lead generalizing text with
  | nil => simp [stripLead?]
  | cons expected lead ih =>
      cases text with
      | nil => simp [stripLead?]
      | cons character text =>
          by_cases h : expected = character
          · simp [stripLead?, h, ih]
          · simp [stripLead?, h, Ne.symm h]

/-- The parts of a text between the separators, in order; there is always at
least one. -/
def splitAll (isSeparator : Char → Bool) : List Char → List (List Char)
  | [] => [[]]
  | character :: rest =>
      if isSeparator character then
        [] :: splitAll isSeparator rest
      else
        match splitAll isSeparator rest with
        | [] => [[character]]
        | part :: parts => (character :: part) :: parts

/-- The non-empty parts of a text between the separators. -/
def words (isSeparator : Char → Bool) (characters : List Char) :
    List (List Char) :=
  (splitAll isSeparator characters).filter fun part => !part.isEmpty

/-- Split at the first separator, which belongs to neither side. -/
def splitFirst? (separator : Char) : List Char → Option (List Char × List Char)
  | [] => none
  | character :: rest =>
      if character = separator then
        some ([], rest)
      else
        (splitFirst? separator rest).map fun (before, after) =>
          (character :: before, after)

theorem splitFirst?_eq_some_iff {separator : Char}
    {text before after : List Char} :
    splitFirst? separator text = some (before, after) ↔
      text = before ++ separator :: after ∧ separator ∉ before := by
  induction text generalizing before with
  | nil => simp [splitFirst?]
  | cons character rest ih =>
      by_cases h : character = separator
      · subst h
        cases before with
        | nil => simp [splitFirst?]
        | cons first others =>
            simp only [splitFirst?, if_true, Option.some.injEq, Prod.mk.injEq,
              reduceCtorEq, false_and, List.cons_append, List.cons.injEq,
              List.mem_cons, false_iff]
            rintro ⟨⟨same, -⟩, absent⟩
            exact absent (Or.inl same)
      · simp only [splitFirst?, h, if_false, Option.map_eq_some_iff,
        Prod.exists,
          Prod.mk.injEq]
        constructor
        · rintro ⟨inner, tail, found, rfl, rfl⟩
          obtain ⟨rfl, absent⟩ := ih.mp found
          refine ⟨rfl, ?_⟩
          rw [List.mem_cons]
          rintro (same | member)
          · exact h same.symm
          · exact absent member
        · rintro ⟨split, absent⟩
          cases before with
          | nil => exact absurd (List.cons.inj split).1 h
          | cons first others =>
              obtain ⟨rfl, remainder⟩ := List.cons.inj split
              rw [List.mem_cons, not_or] at absent
              exact ⟨others, after, ih.mpr ⟨remainder, absent.2⟩, rfl, rfl⟩

theorem splitFirst?_length {separator : Char} {text before after : List Char}
    (found : splitFirst? separator text = some (before, after)) :
    after.length < text.length := by
  obtain ⟨rfl, -⟩ := splitFirst?_eq_some_iff.mp found
  simp only [List.length_append, List.length_cons]
  omega

/-- Split at the last separator, which belongs to neither side. -/
def splitLast? (separator : Char) (characters : List Char) :
    Option (List Char × List Char) :=
  (splitFirst? separator characters.reverse).map fun (after, before) =>
    (before.reverse, after.reverse)

theorem splitLast?_eq_some_iff {separator : Char}
    {text before after : List Char} :
    splitLast? separator text = some (before, after) ↔
      text = before ++ separator :: after ∧ separator ∉ after := by
  simp only [splitLast?, Option.map_eq_some_iff, Prod.exists,
    splitFirst?_eq_some_iff, Prod.mk.injEq]
  constructor
  · rintro ⟨reversedAfter, reversedBefore, ⟨split, absent⟩, rfl, rfl⟩
    refine ⟨?_, by simpa using absent⟩
    rw [← List.reverse_reverse text, split]
    simp
  · rintro ⟨rfl, absent⟩
    refine ⟨after.reverse, before.reverse, ⟨?_, by simpa using absent⟩, ?_,
      ?_⟩ <;> simp

/-- An ASCII upper case letter as its lower case one, every other character as
itself. -/
def lowerAscii (character : Char) : Char :=
  if 'A' ≤ character && character ≤ 'Z' then
    Char.ofNat (character.toNat + 32)
  else
    character

def isLowerAscii (character : Char) : Bool :=
  'a' ≤ character && character ≤ 'z'

def isDigitAscii (character : Char) : Bool :=
  '0' ≤ character && character ≤ '9'

def isAlphaAscii (character : Char) : Bool :=
  isLowerAscii character || ('A' ≤ character && character ≤ 'Z')

def isAlphanumericAscii (character : Char) : Bool :=
  isAlphaAscii character || isDigitAscii character

def hexDigit? (character : Char) : Option Nat :=
  if isDigitAscii character then some (character.toNat - '0'.toNat)
  else if 'a' ≤ character && character ≤ 'f' then
    some (character.toNat - 'a'.toNat + 10)
  else if 'A' ≤ character && character ≤ 'F' then
    some (character.toNat - 'A'.toNat + 10)
  else none

/-- The value of a run of digits in a base, most significant digit first. -/
def digitsValue (base : Nat) (digits : List Nat) : Nat :=
  digits.foldl (fun value digit => value * base + digit) 0

/-- The value of a run of ASCII decimal digits. -/
def decimalValue (characters : List Char) : Nat :=
  digitsValue 10 (characters.map fun character => character.toNat - '0'.toNat)

end Gatekeeper.Text
