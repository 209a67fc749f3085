import Gatekeeper.Json.Writer
import Gatekeeper.Proofs.Json.Reading
import Mathlib.Data.List.Forall2

/-!
# Reading back what is written

The compact form of an object, read as a document. Every character of a string
stands for itself or is escaped, so no string ends early and no line feed is
written, and a natural number is written by its digits. So the reader gives back
the names and the values of the members as they were.
-/

namespace Gatekeeper.Json

open Gatekeeper.Number
open Gatekeeper.Text

/-! ### Natural numbers -/

def decimalDigits (value : Nat) : List Nat :=
  (Nat.toDigits 10 value).map fun character => character.toNat - '0'.toNat

def naturalLiteral (value : Nat) : NumberLiteral :=
  ⟨false, decimalDigits value, none, none⟩

theorem isDigitAscii_of_mem_toDigits {value : Nat} {character : Char}
    (member : character ∈ Nat.toDigits 10 value) :
    isDigitAscii character = true := by
  have isDigit := Nat.isDigit_of_mem_toDigits (by decide) (by decide) member
  simpa [Char.isDigit, isDigitAscii, Char.le_def] using isDigit

/-- The last digit is the rest by ten, behind the digits of the quotient. -/
theorem decimalDigits_eq (value : Nat) :
    decimalDigits value =
      if value < 10 then [value]
      else decimalDigits (value / 10) ++ [value % 10] := by
  unfold decimalDigits
  rw [Nat.toDigits_eq_if (by decide)]
  split
  · rename_i small
    simp [Nat.toNat_digitChar_of_lt_ten small]
  · have small : value % 10 < 10 := Nat.mod_lt _ (by decide)
    simp [Nat.toNat_digitChar_of_lt_ten small]

theorem decimalDigits_ne_nil (value : Nat) : decimalDigits value ≠ [] := by
  simp [decimalDigits, Nat.toDigits_ne_nil]

theorem digitsValue_decimalDigits (value : Nat) :
    digitsValue 10 (decimalDigits value) = value := by
  induction value using Nat.strongRecOn with
  | ind value ih =>
      rw [decimalDigits_eq]
      split
      · simp [digitsValue]
      · have quotient := ih (value / 10) (by omega)
        unfold digitsValue at quotient ⊢
        rw [List.foldl_append, quotient, List.foldl_cons, List.foldl_nil]
        omega

theorem head?_decimalDigits {value : Nat} (positive : 0 < value) :
    (decimalDigits value).head? ≠ some 0 := by
  induction value using Nat.strongRecOn with
  | ind value ih =>
      rw [decimalDigits_eq]
      split
      · simp only [List.head?_cons, ne_eq, Option.some.injEq]
        omega
      · have quotient := ih (value / 10) (by omega) (by omega)
        rwa [List.head?_append_of_ne_nil _ (decimalDigits_ne_nil _)]

/-- Only a zero that stands alone leads. -/
theorem decimalDigits_unpadded (value digit : Nat) (rest : List Nat) :
    decimalDigits value ≠ 0 :: digit :: rest := by
  intro padded
  cases value with
  | zero =>
      rw [decimalDigits_eq] at padded
      cases padded
  | succ value =>
      apply head?_decimalDigits (Nat.succ_pos value)
      rw [padded]
      rfl

theorem writesNumber_natural (value : Nat) :
    WritesNumber (naturalLiteral value) ((Nat.toDigits 10 value).map some) := by
  have written : List.Forall₂ IsDigit (decimalDigits value)
      ((Nat.toDigits 10 value).map some) := by
    unfold decimalDigits
    rw [List.forall₂_map_left_iff, List.forall₂_map_right_iff,
      List.forall₂_same]
    intro character member
    exact ⟨character, rfl, isDigitAscii_of_mem_toDigits member, rfl⟩
  have unsigned : WritesUnsigned (naturalLiteral value)
      ((Nat.toDigits 10 value).map some ++ [] ++ []) :=
    .intro written (decimalDigits_ne_nil value) (decimalDigits_unpadded value)
      .absent .absent
  rw [List.append_nil, List.append_nil] at unsigned
  exact .unsigned rfl unsigned

/-! ### Strings -/

/-- How a character is written in a string: as itself, perhaps escaped, or by
its code. -/
def unitOf (character : Char) : StringUnit :=
  if 0x20 ≤ character.toNat ∨ character = '\n' ∨ character = '\r' ∨
      character = '\t' ∨ character.toNat = 0x08 ∨ character.toNat = 0x0C then
    .symbol (some character)
  else
    .code character.toNat

def unitsOf (text : String) : List StringUnit :=
  text.toList.map unitOf

theorem hexDigit?_hexCharacter :
    ∀ digit < 16, hexDigit? (hexCharacter digit) = some digit := by
  decide

theorem hexCharacter_ne_lineFeed :
    ∀ digit < 16, hexCharacter digit ≠ '\n' := by
  decide

/-- A code below the surrogates is a character on its own. -/
theorem unitsCharacters?_code {code : Nat} (small : code < 0xD800)
    (rest : List StringUnit) :
    unitsCharacters? (.code code :: rest) =
      (unitsCharacters? rest).map (Char.ofNat code :: ·) := by
  have notHigh : isHighSurrogate code = false := by
    simp only [isHighSurrogate, Bool.and_eq_false_iff, decide_eq_false_iff_not]
    omega
  have notLow : isLowSurrogate code = false := by
    simp only [isLowSurrogate, Bool.and_eq_false_iff, decide_eq_false_iff_not]
    omega
  rcases rest with _ | ⟨_ | low, others⟩
  · simp [unitsCharacters?, notHigh, notLow]
  · simp [unitsCharacters?, notHigh, notLow]
  · simp [unitsCharacters?, notHigh, notLow]

/-- The three ways to write a character in a string. -/
inductive Escapes (character : Char) : List Char → StringUnit → Prop
  | plain (unquoted : character ≠ '"') (unescaped : character ≠ '\\')
      (visible : 0x20 ≤ character.toNat) :
      Escapes character [character] (.symbol (some character))
  | named {mark : Char} (names : simpleEscape? mark = some character) :
      Escapes character ['\\', mark] (.symbol (some character))
  | coded (hidden : character.toNat < 0x20) :
      Escapes character
        ['\\', 'u', '0', '0', hexCharacter (character.toNat / 16),
          hexCharacter (character.toNat % 16)] (.code character.toNat)

theorem escapes (character : Char) :
    Escapes character (escapeCharacter character) (unitOf character) := by
  have coded (code : Nat) (same : character.toNat = code) :
      character = Char.ofNat code := by rw [← same, Char.ofNat_toNat]
  unfold escapeCharacter unitOf
  by_cases quote : character = '"'
  · subst quote
    exact .named rfl
  by_cases backslash : character = '\\'
  · subst backslash
    exact .named rfl
  by_cases hidden : character.toNat < 0x20
  · have invisible : ¬ 0x20 ≤ character.toNat := by omega
    by_cases feed : character = '\n'
    · subst feed
      exact .named rfl
    by_cases carriage : character = '\r'
    · subst carriage
      exact .named rfl
    by_cases tab : character = '\t'
    · subst tab
      exact .named rfl
    by_cases back : character.toNat = 0x08
    · rw [coded _ back]
      exact .named rfl
    by_cases page : character.toNat = 0x0C
    · rw [coded _ page]
      exact .named rfl
    simp only [quote, backslash, hidden, invisible, feed, carriage, tab, back,
      page, if_true, if_false, or_self]
    exact .coded hidden
  · have visible : 0x20 ≤ character.toNat := by omega
    simp only [quote, backslash, hidden, visible, if_true, if_false, true_or]
    exact .plain quote backslash visible

namespace Escapes

variable {character : Char} {letters : List Char} {unit : StringUnit}

theorem writes (way : Escapes character letters unit)
    {units : List StringUnit} {text : List Symbol}
    (rest : WritesUnits units text) :
    WritesUnits (unit :: units) (letters.map some ++ text) := by
  cases way with
  | plain unquoted unescaped visible =>
      exact .plain unquoted unescaped visible rest
  | named names => exact .escape names rest
  | coded hidden =>
      have zero : hexDigit? '0' = some 0 := by decide
      have written := WritesUnits.code zero zero
        (hexDigit?_hexCharacter (character.toNat / 16) (by omega))
        (hexDigit?_hexCharacter (character.toNat % 16) (by omega)) rest
      have same : ((0 * 16 + 0) * 16 + character.toNat / 16) * 16 +
          character.toNat % 16 = character.toNat := by omega
      rwa [same] at written

theorem unitsCharacters? (way : Escapes character letters unit)
    (rest : List StringUnit) :
    Json.unitsCharacters? (unit :: rest) =
      (Json.unitsCharacters? rest).map (character :: ·) := by
  cases way with
  | plain => rw [Json.unitsCharacters?]
  | named => rw [Json.unitsCharacters?]
  | coded hidden =>
      rw [unitsCharacters?_code (by omega), Char.ofNat_toNat]

theorem unbroken (way : Escapes character letters unit) : '\n' ∉ letters := by
  cases way with
  | plain unquoted unescaped visible =>
      rw [List.mem_singleton]
      rintro rfl
      exact absurd visible (by decide)
  | @named mark names =>
      simp only [List.mem_cons, List.not_mem_nil, or_false, not_or]
      refine ⟨by decide, ?_⟩
      rintro rfl
      cases names
  | coded hidden =>
      have high := hexCharacter_ne_lineFeed (character.toNat / 16) (by omega)
      have low := hexCharacter_ne_lineFeed (character.toNat % 16) (by omega)
      simp [high.symm, low.symm]

end Escapes

theorem writesUnits_unitsOf (text : String) :
    WritesUnits (unitsOf text)
      ((text.toList.flatMap escapeCharacter).map some) := by
  unfold unitsOf
  induction text.toList with
  | nil => exact .nil
  | cons character rest ih =>
      rw [List.flatMap_cons, List.map_append, List.map_cons]
      exact (escapes character).writes ih

theorem unitsText?_unitsOf (text : String) :
    unitsText? (unitsOf text) = some text := by
  have characters (written : List Char) :
      unitsCharacters? (written.map unitOf) = some written := by
    induction written with
    | nil => rfl
    | cons character rest ih =>
        rw [List.map_cons, (escapes character).unitsCharacters?, ih,
          Option.map_some]
  rw [unitsText?, unitsOf, characters, Option.map_some, String.ofList_toList]

/-- A string is written on one line. -/
theorem lineFeed_not_mem_quote (text : String) : '\n' ∉ quote text := by
  simp [quote, List.mem_flatMap, fun character => (escapes character).unbroken]

/-! ### Objects -/

/-- How the plain values are written. A double is left out, and so is what holds
other values. -/
inductive WrittenAs : Json → Document → Prop
  | boolean (value : Bool) : WrittenAs (.boolean value) (.boolean value)
  | natural (value : Nat) :
      WrittenAs (.nat value) (.number (naturalLiteral value))
  | string (text : String) :
      WrittenAs (.string text) (.string (unitsOf text))

namespace WrittenAs

variable {value : Json} {document : Document}

theorem writes (written : WrittenAs value document) :
    WritesValue document (value.render.map some) := by
  cases written with
  | boolean value =>
      cases value with
      | false => exact .falseWord
      | true => exact .trueWord
  | natural value => exact .number (writesNumber_natural value)
  | string text =>
      simp only [render, quote, List.map_append, List.map_cons, List.map_nil,
        List.cons_append]
      exact .string (writesUnits_unitsOf text)

theorem unbroken (written : WrittenAs value document) :
    '\n' ∉ value.render := by
  cases written with
  | boolean value => cases value <;> simp [render]
  | natural value =>
      intro member
      exact absurd (isDigitAscii_of_mem_toDigits member) (by decide)
  | string text => exact lineFeed_not_mem_quote text

end WrittenAs

/-- A member of an object and how it is written: under its name, as its value
is. -/
def MemberWrittenAs (member : String × Json) (written : String × Document) :
    Prop :=
  written.1 = member.1 ∧ WrittenAs member.2 written.2

def quotedName (written : String × Document) : List StringUnit × Document :=
  (unitsOf written.1, written.2)

section Objects

variable {member : String × Json} {written : String × Document}
  {members : Members} {documents : List (String × Document)}

theorem MemberWrittenAs.writes (same : MemberWrittenAs member written) :
    WritesMember (quotedName written)
      ((quote member.1 ++ ':' :: member.2.render).map some) := by
  obtain ⟨named, valueWritten⟩ := same
  have padded :=
    WritesPadded.intro isSpacing_nil isSpacing_nil valueWritten.writes
  have whole := WritesMember.intro isSpacing_nil isSpacing_nil
    (writesUnits_unitsOf written.1) padded
  simpa [quote, quotedName, named] using whole

theorem writesMembers_cons (first : MemberWrittenAs member written)
    (rest : List.Forall₂ MemberWrittenAs members documents) :
    ∃ text,
      WritesMembers (quotedName written :: documents.map quotedName) text ∧
        (quote member.1 ++ ':' :: member.2.render ++
          renderMembers members).map some = text ++ [some '\x7d'] := by
  induction rest generalizing member written with
  | nil =>
      refine ⟨_, .last first.writes, ?_⟩
      simp [renderMembers]
  | @cons next nextWritten members documents head tail ih =>
      obtain ⟨text, others, split⟩ := ih head
      refine ⟨_, .more first.writes others, ?_⟩
      obtain ⟨name, value⟩ := next
      have tailText : (renderMembers ((name, value) :: members)).map some =
          some ',' :: (text ++ [some '\x7d']) := by
        rw [← split]
        simp [renderMembers]
      rw [List.map_append, tailText, List.append_assoc, List.cons_append]

/-- The compact form of an object reads as the object that it is written as. -/
theorem read?_compact
    (same : List.Forall₂ MemberWrittenAs members documents) :
    Document.read? (symbols (Json.object members).compact) =
      some (.object (documents.map quotedName)) := by
  rw [Document.read?_eq_some_iff, symbols, compact, String.toList_ofList]
  suffices value : WritesValue (.object (documents.map quotedName))
      ((Json.object members).render.map some) by
    simpa using WritesPadded.intro isSpacing_nil isSpacing_nil value
  cases same with
  | nil => exact .emptyObject isSpacing_nil
  | @cons member written members documents first rest =>
      obtain ⟨text, others, split⟩ := writesMembers_cons first rest
      obtain ⟨name, value⟩ := member
      simp only [render, List.cons_append, List.map_cons, split]
      exact .object others

theorem namedMembers?_quotedName (documents : List (String × Document)) :
    Document.namedMembers? (documents.map quotedName) = some documents := by
  induction documents with
  | nil => rfl
  | cons written documents ih =>
      obtain ⟨name, document⟩ := written
      simp [quotedName, Document.namedMembers?, unitsText?_unitsOf, ih]

/-- An object of plain members is written on one line. -/
theorem lineFeed_not_mem_compact
    (same : List.Forall₂ MemberWrittenAs members documents) :
    '\n' ∉ (Json.object members).compact.toList := by
  have others (members : Members) (documents : List (String × Document))
      (same : List.Forall₂ MemberWrittenAs members documents) :
      '\n' ∉ renderMembers members := by
    induction same with
    | nil => simp [renderMembers]
    | @cons member written members documents first rest ih =>
        obtain ⟨name, value⟩ := member
        simp [renderMembers, lineFeed_not_mem_quote, first.2.unbroken, ih]
  rw [compact, String.toList_ofList]
  cases same with
  | nil => simp [render]
  | @cons member written members documents first rest =>
      obtain ⟨name, value⟩ := member
      simp [render, lineFeed_not_mem_quote, first.2.unbroken,
        others members documents rest]

end Objects

end Gatekeeper.Json
