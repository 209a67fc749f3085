import Gatekeeper.Json.Document
import Mathlib.Data.List.Forall2

/-!
# Grammar of JSON texts

Which texts write which document, said without a reader: spacing, numbers,
strings, and the values that are built of them. The readers of spacing, numbers
and strings take exactly what the grammar gives them. A number goes on as far as
it can, so it is read back before whatever may follow a value.
-/

namespace Gatekeeper.Json

open Gatekeeper.Text

/-! ### The grammar -/

def IsSpacing (text : List Symbol) : Prop :=
  ∀ symbol ∈ text, isSpace symbol = true

def IsDigit (value : Nat) (symbol : Symbol) : Prop :=
  ∃ character, symbol = some character ∧ isDigitAscii character = true ∧
    value = character.toNat - '0'.toNat

inductive WritesFraction : Option (List Nat) → List Symbol → Prop
  | absent : WritesFraction none []
  | present {digits : List Nat} {text : List Symbol}
      (written : List.Forall₂ IsDigit digits text) (nonempty : digits ≠ []) :
      WritesFraction (some digits) (some '.' :: text)

/-- The sign of an exponent may be left out when it is positive. -/
inductive WritesSign : Bool → List Symbol → Prop
  | absent : WritesSign false []
  | plus : WritesSign false [some '+']
  | minus : WritesSign true [some '-']

inductive WritesExponent : Option (Bool × List Nat) → List Symbol → Prop
  | absent : WritesExponent none []
  | present {negative : Bool} {digits : List Nat} {sign text : List Symbol}
      (mark : Char) (isMark : mark = 'e' ∨ mark = 'E')
      (signed : WritesSign negative sign)
      (written : List.Forall₂ IsDigit digits text) (nonempty : digits ≠ []) :
      WritesExponent (some (negative, digits)) (some mark :: (sign ++ text))

/-- A number without its sign. Only a zero that stands alone leads. -/
inductive WritesUnsigned (literal : NumberLiteral) : List Symbol → Prop
  | intro {whole fraction exponent : List Symbol}
      (written : List.Forall₂ IsDigit literal.whole whole)
      (nonempty : literal.whole ≠ [])
      (unpadded : ∀ digit rest, literal.whole ≠ 0 :: digit :: rest)
      (hasFraction : WritesFraction literal.fraction fraction)
      (hasExponent : WritesExponent literal.exponent exponent) :
      WritesUnsigned literal (whole ++ fraction ++ exponent)

inductive WritesNumber (literal : NumberLiteral) : List Symbol → Prop
  | unsigned {text : List Symbol} (sign : literal.negative = false)
      (written : WritesUnsigned literal text) : WritesNumber literal text
  | signed {text : List Symbol} (sign : literal.negative = true)
      (written : WritesUnsigned literal text) :
      WritesNumber literal (some '-' :: text)

/-- What stands between the quotes of a string. -/
inductive WritesUnits : List StringUnit → List Symbol → Prop
  | nil : WritesUnits [] []
  | plain {character : Char} {units : List StringUnit} {text : List Symbol}
      (unquoted : character ≠ '"') (unescaped : character ≠ '\\')
      (visible : 0x20 ≤ character.toNat) (rest : WritesUnits units text) :
      WritesUnits (.symbol (some character) :: units) (some character :: text)
  | missing {units : List StringUnit} {text : List Symbol}
      (rest : WritesUnits units text) :
      WritesUnits (.symbol none :: units) (none :: text)
  | escape {mark character : Char} {units : List StringUnit}
      {text : List Symbol} (names : simpleEscape? mark = some character)
      (rest : WritesUnits units text) :
      WritesUnits (.symbol (some character) :: units)
        (some '\\' :: some mark :: text)
  | code {first second third fourth : Char} {a b c d : Nat}
      {units : List StringUnit} {text : List Symbol}
      (isFirst : hexDigit? first = some a)
      (isSecond : hexDigit? second = some b)
      (isThird : hexDigit? third = some c)
      (isFourth : hexDigit? fourth = some d) (rest : WritesUnits units text) :
      WritesUnits (.code (((a * 16 + b) * 16 + c) * 16 + d) :: units)
        (some '\\' :: some 'u' :: some first :: some second :: some third ::
          some fourth :: text)

mutual

inductive WritesValue : Document → List Symbol → Prop
  | null : WritesValue .null [some 'n', some 'u', some 'l', some 'l']
  | trueWord :
      WritesValue (.boolean true) [some 't', some 'r', some 'u', some 'e']
  | falseWord :
      WritesValue (.boolean false)
        [some 'f', some 'a', some 'l', some 's', some 'e']
  | number {literal : NumberLiteral} {text : List Symbol}
      (written : WritesNumber literal text) : WritesValue (.number literal) text
  | string {units : List StringUnit} {text : List Symbol}
      (written : WritesUnits units text) :
      WritesValue (.string units) (some '"' :: (text ++ [some '"']))
  | emptyArray {space : List Symbol} (spacing : IsSpacing space) :
      WritesValue (.array []) (some '[' :: (space ++ [some ']']))
  | array {items : List Document} {text : List Symbol}
      (written : WritesItems items text) :
      WritesValue (.array items) (some '[' :: (text ++ [some ']']))
  | emptyObject {space : List Symbol} (spacing : IsSpacing space) :
      WritesValue (.object []) (some '\x7b' :: (space ++ [some '\x7d']))
  | object {members : List (List StringUnit × Document)} {text : List Symbol}
      (written : WritesMembers members text) :
      WritesValue (.object members) (some '\x7b' :: (text ++ [some '\x7d']))

/-- A value with spacing around it. -/
inductive WritesPadded : Document → List Symbol → Prop
  | intro {document : Document} {before text after : List Symbol}
      (leading : IsSpacing before) (trailing : IsSpacing after)
      (written : WritesValue document text) :
      WritesPadded document (before ++ (text ++ after))

/-- The items of an array, at least one, with commas between them. -/
inductive WritesItems : List Document → List Symbol → Prop
  | last {item : Document} {text : List Symbol}
      (written : WritesPadded item text) : WritesItems [item] text
  | more {item : Document} {items : List Document} {text others : List Symbol}
      (written : WritesPadded item text) (rest : WritesItems items others) :
      WritesItems (item :: items) (text ++ some ',' :: others)

/-- A member of an object: its name, a colon and its value. -/
inductive WritesMember : List StringUnit × Document → List Symbol → Prop
  | intro {name : List StringUnit} {value : Document}
      {before nameText after text : List Symbol} (leading : IsSpacing before)
      (trailing : IsSpacing after) (named : WritesUnits name nameText)
      (written : WritesPadded value text) :
      WritesMember (name, value)
        (before ++ some '"' ::
          (nameText ++ some '"' :: (after ++ some ':' :: text)))

/-- The members of an object, at least one, with commas between them. -/
inductive WritesMembers :
    List (List StringUnit × Document) → List Symbol → Prop
  | last {member : List StringUnit × Document} {text : List Symbol}
      (written : WritesMember member text) : WritesMembers [member] text
  | more {member : List StringUnit × Document}
      {members : List (List StringUnit × Document)} {text others : List Symbol}
      (written : WritesMember member text)
      (rest : WritesMembers members others) :
      WritesMembers (member :: members) (text ++ some ',' :: others)

end

/-! ### Spacing -/

section

variable {space before text rest : List Symbol} {first : Symbol}

theorem isSpacing_nil : IsSpacing [] :=
  List.forall_mem_nil _

theorem IsSpacing.append (leading : IsSpacing before)
    (trailing : IsSpacing space) : IsSpacing (before ++ space) := by
  intro symbol member
  rcases List.mem_append.mp member with early | late
  · exact leading symbol early
  · exact trailing symbol late

theorem skipSpace_append (spacing : IsSpacing space) :
    skipSpace (space ++ text) = skipSpace text :=
  List.dropWhile_append_of_pos spacing

theorem skipSpace_cons (solid : isSpace first = false) :
    skipSpace (first :: rest) = first :: rest :=
  List.dropWhile_cons_of_neg (by simp [solid])

theorem skipSpace_append_cons (spacing : IsSpacing space)
    (solid : isSpace first = false) :
    skipSpace (space ++ first :: rest) = first :: rest := by
  rw [skipSpace_append spacing, skipSpace_cons solid]

theorem exists_spacing (input : List Symbol) :
    ∃ space, IsSpacing space ∧ input = space ++ skipSpace input := by
  refine ⟨input.takeWhile isSpace, ?_, List.takeWhile_append_dropWhile.symm⟩
  intro symbol member
  exact List.all_eq_true.mp List.all_takeWhile symbol member

theorem exists_spacing_of_skipSpace {input : List Symbol}
    (skipped : skipSpace input = rest) :
    ∃ space, IsSpacing space ∧ input = space ++ rest := by
  subst skipped
  exact exists_spacing input

end

/-- What may follow a value: nothing, a space, a comma or a closing bracket. -/
def EndsValue : List Symbol → Prop
  | [] => True
  | first :: _ =>
      isSpace first = true ∨ first = some ',' ∨ first = some ']' ∨
        first = some '\x7d'

theorem EndsValue.append {space rest : List Symbol} (spacing : IsSpacing space)
    (ends : EndsValue rest) : EndsValue (space ++ rest) := by
  cases space with
  | nil => exact ends
  | cons first others => exact .inl (spacing first List.mem_cons_self)

/-- A number ends before what may follow a value. -/
theorem EndsValue.not_numeric {character : Char} {after : List Symbol}
    (ends : EndsValue (some character :: after)) :
    isDigitAscii character = false ∧ character ≠ '.' ∧ character ≠ 'e' ∧
      character ≠ 'E' := by
  have among : character = ' ' ∨ character = '\n' ∨ character = '\t' ∨
      character = '\r' ∨ character = ',' ∨ character = ']' ∨
      character = '\x7d' := by
    simpa [EndsValue, isSpace, or_assoc] using ends
  rcases among with rfl | rfl | rfl | rfl | rfl | rfl | rfl <;> decide

/-! ### Numbers -/

theorem readDigits_append {digits : List Nat} {text rest : List Symbol}
    (written : List.Forall₂ IsDigit digits text)
    (ends : ∀ character after, rest = some character :: after →
      isDigitAscii character = false) :
    readDigits (text ++ rest) = (digits, rest) := by
  induction written with
  | nil =>
      rcases rest with _ | ⟨_ | character, after⟩
      · rfl
      · rfl
      · simp [readDigits, ends character after rfl]
  | cons digit others ih =>
      obtain ⟨character, rfl, isDigit, rfl⟩ := digit
      rw [List.cons_append, readDigits]
      simp [isDigit, ih]

theorem exists_readDigits (input : List Symbol) :
    ∃ text, List.Forall₂ IsDigit (readDigits input).1 text ∧
      input = text ++ (readDigits input).2 := by
  induction input with
  | nil => exact ⟨[], .nil, rfl⟩
  | cons first rest ih =>
      rcases first with _ | character
      · exact ⟨[], .nil, rfl⟩
      · cases isDigit : isDigitAscii character with
        | false => exact ⟨[], by simp [readDigits, isDigit]⟩
        | true =>
            obtain ⟨text, written, split⟩ := ih
            refine ⟨some character :: text, ?_, ?_⟩
            · simp only [readDigits, isDigit, if_true]
              exact .cons ⟨character, rfl, isDigit, rfl⟩ written
            · simp only [readDigits, isDigit, if_true, List.cons_append]
              exact congrArg _ split

theorem readDigits_eq {input rest : List Symbol} {digits : List Nat}
    (read : readDigits input = (digits, rest)) :
    ∃ text, List.Forall₂ IsDigit digits text ∧ input = text ++ rest := by
  have written := exists_readDigits input
  rwa [read] at written

theorem readFraction?_eq_some {input rest : List Symbol}
    {fraction : Option (List Nat)}
    (read : readFraction? input = some (fraction, rest)) :
    ∃ text, WritesFraction fraction text ∧ input = text ++ rest := by
  unfold readFraction? at read
  split at read
  · split at read
    · cases read
    · rename_i digits after nonempty digitsRead
      obtain ⟨rfl, rfl⟩ := Prod.mk.inj (Option.some.inj read)
      obtain ⟨text, written, rfl⟩ := readDigits_eq digitsRead
      exact ⟨_, .present written nonempty, rfl⟩
  · obtain ⟨rfl, rfl⟩ := Prod.mk.inj (Option.some.inj read)
    exact ⟨[], .absent, rfl⟩

theorem readFraction?_append {fraction : Option (List Nat)}
    {text rest : List Symbol} (written : WritesFraction fraction text)
    (ends : ∀ character after, rest = some character :: after →
      isDigitAscii character = false ∧ character ≠ '.') :
    readFraction? (text ++ rest) = some (fraction, rest) := by
  cases written with
  | absent =>
      unfold readFraction?
      split
      · rename_i after pointed
        exact absurd rfl (ends _ _ pointed).2
      · rfl
  | @present digits text written nonempty =>
      have digitsRead : readDigits (text ++ rest) = (digits, rest) :=
        readDigits_append written fun character after split =>
          (ends character after split).1
      rw [List.cons_append, readFraction?, digitsRead]
      cases digits with
      | nil => exact absurd rfl nonempty
      | cons digit others => rfl

/-- The sign of an exponent, and what follows it. -/
def readSign : List Symbol → Bool × List Symbol
  | some '+' :: after => (false, after)
  | some '-' :: after => (true, after)
  | after => (false, after)

theorem exists_readSign (input : List Symbol) :
    ∃ sign, WritesSign (readSign input).1 sign ∧
      input = sign ++ (readSign input).2 := by
  unfold readSign
  split
  · exact ⟨_, .plus, rfl⟩
  · exact ⟨_, .minus, rfl⟩
  · exact ⟨_, .absent, rfl⟩

theorem readSign_append {negative : Bool} {sign text : List Symbol}
    {digits : List Nat} (signed : WritesSign negative sign)
    (written : List.Forall₂ IsDigit digits text) (nonempty : digits ≠ [])
    (rest : List Symbol) :
    readSign (sign ++ text ++ rest) = (negative, text ++ rest) := by
  cases signed with
  | plus => rfl
  | minus => rfl
  | absent =>
      cases written with
      | nil => exact absurd rfl nonempty
      | cons digit others =>
          obtain ⟨character, rfl, isDigit, -⟩ := digit
          have unsigned : character ≠ '+' ∧ character ≠ '-' := by
            constructor <;> rintro rfl <;> exact absurd isDigit (by decide)
          simp [readSign, unsigned]

theorem readExponent?_cons (mark : Char) (rest : List Symbol) :
    readExponent? (some mark :: rest) =
      if mark = 'e' ∨ mark = 'E' then
        match readDigits (readSign rest).2 with
        | ([], _) => none
        | (digits, after) => some (some ((readSign rest).1, digits), after)
      else
        some (none, some mark :: rest) :=
  rfl

theorem readExponent?_eq_some {input rest : List Symbol}
    {exponent : Option (Bool × List Nat)}
    (read : readExponent? input = some (exponent, rest)) :
    ∃ text, WritesExponent exponent text ∧ input = text ++ rest := by
  have unread (same : some (none, input) = some (exponent, rest)) :
      ∃ text, WritesExponent exponent text ∧ input = text ++ rest := by
    obtain ⟨rfl, rfl⟩ := Prod.mk.inj (Option.some.inj same)
    exact ⟨[], .absent, rfl⟩
  rcases input with _ | ⟨_ | mark, afterMark⟩
  · exact unread read
  · exact unread read
  · rw [readExponent?_cons] at read
    split at read
    · rename_i isMark
      split at read
      · cases read
      · rename_i digits after nonempty digitsRead
        obtain ⟨rfl, rfl⟩ := Prod.mk.inj (Option.some.inj read)
        obtain ⟨sign, signed, split⟩ := exists_readSign afterMark
        obtain ⟨text, written, unsigned⟩ := readDigits_eq digitsRead
        refine ⟨_, .present mark isMark signed written nonempty, ?_⟩
        rw [split, unsigned]
        simp
    · exact unread read

theorem readExponent?_append {exponent : Option (Bool × List Nat)}
    {text rest : List Symbol} (written : WritesExponent exponent text)
    (ends : EndsValue rest) :
    readExponent? (text ++ rest) = some (exponent, rest) := by
  cases written with
  | absent =>
      rcases rest with _ | ⟨_ | character, after⟩
      · rfl
      · rfl
      · obtain ⟨-, -, notSmall, notGreat⟩ := ends.not_numeric
        rw [List.nil_append, readExponent?_cons]
        simp [notSmall, notGreat]
  | @present negative digits sign text mark isMark signed written nonempty =>
      have digitsRead : readDigits (text ++ rest) = (digits, rest) := by
        refine readDigits_append written ?_
        rintro character after rfl
        exact ends.not_numeric.1
      rw [List.cons_append, readExponent?_cons, if_pos isMark,
        readSign_append signed written nonempty, digitsRead]
      cases digits with
      | nil => exact absurd rfl nonempty
      | cons digit others => rfl

theorem readUnsigned?_eq_some {negative : Bool} {input rest : List Symbol}
    {literal : NumberLiteral}
    (read : readUnsigned? negative input = some (literal, rest)) :
    literal.negative = negative ∧
      ∃ text, WritesUnsigned literal text ∧ input = text ++ rest := by
  unfold readUnsigned? at read
  split at read
  · cases read
  · cases read
  · rename_i whole afterWhole nonempty unpadded wholeRead
    obtain ⟨⟨fraction, afterFraction⟩, fractionRead, read⟩ :=
      Option.bind_eq_some_iff.mp read
    obtain ⟨⟨exponent, afterExponent⟩, exponentRead, same⟩ :=
      Option.map_eq_some_iff.mp read
    obtain ⟨rfl, rfl⟩ := Prod.mk.inj same
    obtain ⟨wholeText, written, rfl⟩ := readDigits_eq wholeRead
    obtain ⟨fractionText, hasFraction, rfl⟩ :=
      readFraction?_eq_some fractionRead
    obtain ⟨exponentText, hasExponent, rfl⟩ :=
      readExponent?_eq_some exponentRead
    refine
      ⟨rfl, _, .intro written nonempty unpadded hasFraction hasExponent, ?_⟩
    simp

/-- A fraction or an exponent does not begin with a digit, and what follows a
number does neither. -/
theorem not_digit_of_follows {fraction : Option (List Nat)}
    {exponent : Option (Bool × List Nat)}
    {fractionText exponentText rest : List Symbol} {character : Char}
    {after : List Symbol} (hasFraction : WritesFraction fraction fractionText)
    (hasExponent : WritesExponent exponent exponentText) (ends : EndsValue rest)
    (split : fractionText ++ exponentText ++ rest = some character :: after) :
    isDigitAscii character = false := by
  cases hasFraction with
  | present written nonempty =>
      obtain ⟨same, -⟩ := List.cons.inj split
      obtain rfl := Option.some.inj same
      decide
  | absent =>
      cases hasExponent with
      | present mark isMark signed written nonempty =>
          obtain ⟨same, -⟩ := List.cons.inj split
          obtain rfl := Option.some.inj same
          rcases isMark with rfl | rfl <;> decide
      | absent =>
          obtain rfl : rest = some character :: after := split
          exact ends.not_numeric.1

theorem readUnsigned?_append {literal : NumberLiteral} {text rest : List Symbol}
    (written : WritesUnsigned literal text) (ends : EndsValue rest) :
    readUnsigned? literal.negative (text ++ rest) = some (literal, rest) := by
  obtain ⟨negative, whole, fraction, exponent⟩ := literal
  cases written with
  | @intro wholeText fractionText exponentText written nonempty unpadded
      hasFraction hasExponent =>
      have exponentRead := readExponent?_append hasExponent ends
      have fractionRead :
          readFraction? (fractionText ++ (exponentText ++ rest)) =
            some (fraction, exponentText ++ rest) := by
        refine readFraction?_append hasFraction ?_
        intro character after split
        refine ⟨not_digit_of_follows .absent hasExponent ends split, ?_⟩
        cases hasExponent with
        | present mark isMark signed digits nonempty =>
            obtain ⟨same, -⟩ := List.cons.inj split
            obtain rfl := Option.some.inj same
            rcases isMark with rfl | rfl <;> decide
        | absent =>
            obtain rfl : rest = some character :: after := split
            exact ends.not_numeric.2.1
      have wholeRead :
          readDigits (wholeText ++ (fractionText ++ (exponentText ++ rest))) =
            (whole, fractionText ++ (exponentText ++ rest)) := by
        refine readDigits_append written fun character after split => ?_
        rw [← List.append_assoc] at split
        exact not_digit_of_follows hasFraction hasExponent ends split
      rw [List.append_assoc, List.append_assoc, readUnsigned?, wholeRead]
      rcases whole with _ | ⟨_ | digit, _ | ⟨second, others⟩⟩
      · exact absurd rfl nonempty
      · simp [fractionRead, exponentRead]
      · exact absurd rfl (unpadded second others)
      · simp [fractionRead, exponentRead]
      · simp [fractionRead, exponentRead]

/-! ### Strings -/

theorem readString?_append {units : List StringUnit} {text : List Symbol}
    (written : WritesUnits units text) (rest : List Symbol) :
    readString? (text ++ some '"' :: rest) = some (units, rest) := by
  induction written with
  | nil => simp [readString?]
  | plain unquoted unescaped visible others ih =>
      simp [readString?, unescaped, Nat.not_lt.mpr visible, ih]
  | missing others ih => simp [readString?, ih]
  | @escape mark character units text names others ih =>
      have marked : mark ≠ 'u' := by
        rintro rfl
        simp [simpleEscape?] at names
      simp [readString?, marked, names, ih]
  | code isFirst isSecond isThird isFourth others ih =>
      simp [readString?, readCode?, isFirst, isSecond, isThird, isFourth, ih]

theorem readCode?_eq_some {first second third fourth : Symbol} {code : Nat}
    {rest : List Symbol}
    (read : readCode? [first, second, third, fourth] = some (code, rest)) :
    ∃ one two three four a b c d, first = some one ∧ second = some two ∧
      third = some three ∧ fourth = some four ∧ hexDigit? one = some a ∧
      hexDigit? two = some b ∧ hexDigit? three = some c ∧
      hexDigit? four = some d ∧ code = ((a * 16 + b) * 16 + c) * 16 + d := by
  unfold readCode? at read
  split at read
  · rename_i one two three four after same
    simp only [List.cons.injEq] at same
    obtain ⟨rfl, rfl, rfl, rfl, -⟩ := same
    split at read
    · rename_i a b c d isFirst isSecond isThird isFourth
      obtain ⟨rfl, -⟩ := Prod.mk.inj (Option.some.inj read)
      exact ⟨one, two, three, four, a, b, c, d, rfl, rfl, rfl, rfl, isFirst,
        isSecond, isThird, isFourth, rfl⟩
    · cases read
  · cases read

theorem readString?_eq_some {input rest : List Symbol}
    {units : List StringUnit} (read : readString? input = some (units, rest)) :
    ∃ text, WritesUnits units text ∧ input = text ++ some '"' :: rest := by
  fun_induction readString? input generalizing units with
  | case1 => cases read
  | case2 after =>
      obtain ⟨rfl, rfl⟩ := Prod.mk.inj (Option.some.inj read)
      exact ⟨[], .nil, rfl⟩
  | case3 => cases read
  | case4 first second third fourth after code unread codeRead ih =>
      obtain ⟨⟨others, afterOthers⟩, othersRead, same⟩ :=
        Option.map_eq_some_iff.mp read
      obtain ⟨rfl, rfl⟩ := Prod.mk.inj same
      obtain ⟨text, written, rfl⟩ := ih othersRead
      obtain ⟨one, two, three, four, a, b, c, d, rfl, rfl, rfl, rfl, isFirst,
        isSecond, isThird, isFourth, rfl⟩ := readCode?_eq_some codeRead
      exact ⟨_, .code isFirst isSecond isThird isFourth written, rfl⟩
  | case5 => cases read
  | case6 mark after notCode character names ih =>
      obtain ⟨⟨others, afterOthers⟩, othersRead, same⟩ :=
        Option.map_eq_some_iff.mp read
      obtain ⟨rfl, rfl⟩ := Prod.mk.inj same
      obtain ⟨text, written, rfl⟩ := ih othersRead
      exact ⟨_, .escape names written, rfl⟩
  | case7 => cases read
  | case8 character after unquoted _ _ allowed ih =>
      obtain ⟨⟨others, afterOthers⟩, othersRead, same⟩ :=
        Option.map_eq_some_iff.mp read
      obtain ⟨rfl, rfl⟩ := Prod.mk.inj same
      obtain ⟨text, written, rfl⟩ := ih othersRead
      obtain ⟨unescaped, visible⟩ := not_or.mp allowed
      exact ⟨_, .plain unquoted unescaped (Nat.not_lt.mp visible) written, rfl⟩
  | case9 after ih =>
      obtain ⟨⟨others, afterOthers⟩, othersRead, same⟩ :=
        Option.map_eq_some_iff.mp read
      obtain ⟨rfl, rfl⟩ := Prod.mk.inj same
      obtain ⟨text, written, rfl⟩ := ih othersRead
      exact ⟨_, .missing written, rfl⟩

end Gatekeeper.Json
