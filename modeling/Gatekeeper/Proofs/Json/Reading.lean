import Gatekeeper.Proofs.Json.Grammar

/-!
# Reading JSON texts

The reader of documents gives a document exactly for the texts that write it. It
recurses with fuel, so both halves are inductions on that: whatever it reads is
written in the text that it takes, and a text that its fuel covers is read up to
where the value ends. A text writes at most one document.
-/

namespace Gatekeeper.Json

open Gatekeeper.Text

/-! ### Leading spacing -/

section

variable {space text : List Symbol}

theorem WritesPadded.prepend {document : Document} (spacing : IsSpacing space)
    (written : WritesPadded document text) :
    WritesPadded document (space ++ text) := by
  cases written with
  | intro leading trailing written =>
      rw [← List.append_assoc]
      exact .intro (spacing.append leading) trailing written

theorem WritesItems.prepend {items : List Document} (spacing : IsSpacing space)
    (written : WritesItems items text) : WritesItems items (space ++ text) := by
  cases written with
  | last written => exact .last (written.prepend spacing)
  | more written rest =>
      rw [← List.append_assoc]
      exact .more (written.prepend spacing) rest

theorem WritesMember.prepend {member : List StringUnit × Document}
    (spacing : IsSpacing space) (written : WritesMember member text) :
    WritesMember member (space ++ text) := by
  cases written with
  | intro leading trailing named written =>
      rw [← List.append_assoc]
      exact .intro (spacing.append leading) trailing named written

theorem WritesMembers.prepend {members : List (List StringUnit × Document)}
    (spacing : IsSpacing space) (written : WritesMembers members text) :
    WritesMembers members (space ++ text) := by
  cases written with
  | last written => exact .last (written.prepend spacing)
  | more written rest =>
      rw [← List.append_assoc]
      exact .more (written.prepend spacing) rest

end

/-! ### What is read is written -/

/-- What the readers of values, items and members read with some fuel is
written in the text that they take. -/
structure ReadsWritten (fuel : Nat) : Prop where
  value : ∀ {input document rest},
    readValue? fuel input = some (document, rest) →
    ∃ space text, IsSpacing space ∧ WritesValue document text ∧
      input = space ++ (text ++ rest)
  items : ∀ {input items rest}, readItems? fuel input = some (items, rest) →
    ∃ text, WritesItems items text ∧ input = text ++ some ']' :: rest
  members : ∀ {input members rest},
    readMembers? fuel input = some (members, rest) →
    ∃ text, WritesMembers members text ∧ input = text ++ some '\x7d' :: rest

namespace ReadsWritten

variable {fuel : Nat} {input rest : List Symbol}

/-- A value with the spacing behind it. -/
theorem padded {document : Document} {following : List Symbol}
    (reads : ReadsWritten fuel)
    (read : readValue? fuel input = some (document, following))
    (skipped : skipSpace following = rest) :
    ∃ text, WritesPadded document text ∧ input = text ++ rest := by
  obtain ⟨before, text, leading, written, rfl⟩ := reads.value read
  obtain ⟨after, trailing, rfl⟩ := exists_spacing_of_skipSpace skipped
  exact ⟨_, .intro leading trailing written, by simp⟩

theorem value_succ {document : Document} (reads : ReadsWritten fuel)
    (read : readValue? (fuel + 1) input = some (document, rest)) :
    ∃ space text, IsSpacing space ∧ WritesValue document text ∧
      input = space ++ (text ++ rest) := by
  obtain ⟨space, spacing, split⟩ := exists_spacing input
  suffices ∃ text, WritesValue document text ∧ skipSpace input = text ++ rest by
    obtain ⟨text, written, skipped⟩ := this
    exact ⟨space, text, spacing, written, by rw [← skipped]; exact split⟩
  unfold readValue? at read
  split at read
  · rename_i after found
    obtain ⟨rfl, rfl⟩ := Prod.mk.inj (Option.some.inj read)
    exact ⟨_, .null, found⟩
  · rename_i after found
    obtain ⟨rfl, rfl⟩ := Prod.mk.inj (Option.some.inj read)
    exact ⟨_, .trueWord, found⟩
  · rename_i after found
    obtain ⟨rfl, rfl⟩ := Prod.mk.inj (Option.some.inj read)
    exact ⟨_, .falseWord, found⟩
  · rename_i quoted found
    obtain ⟨⟨units, after⟩, unitsRead, same⟩ := Option.map_eq_some_iff.mp read
    obtain ⟨rfl, rfl⟩ := Prod.mk.inj same
    obtain ⟨text, written, rfl⟩ := readString?_eq_some unitsRead
    exact ⟨_, .string written, by simp [found]⟩
  · rename_i inside found
    rw [found]
    split at read
    · rename_i after closed
      obtain ⟨rfl, rfl⟩ := Prod.mk.inj (Option.some.inj read)
      obtain ⟨between, blank, rfl⟩ := exists_spacing_of_skipSpace closed
      exact ⟨_, .emptyArray blank, by simp⟩
    · obtain ⟨⟨items, after⟩, itemsRead, same⟩ := Option.map_eq_some_iff.mp read
      obtain ⟨rfl, rfl⟩ := Prod.mk.inj same
      obtain ⟨text, written, skipped⟩ := reads.items itemsRead
      obtain ⟨between, blank, rfl⟩ := exists_spacing_of_skipSpace skipped
      exact ⟨_, .array (written.prepend blank), by simp⟩
  · rename_i inside found
    rw [found]
    split at read
    · rename_i after closed
      obtain ⟨rfl, rfl⟩ := Prod.mk.inj (Option.some.inj read)
      obtain ⟨between, blank, rfl⟩ := exists_spacing_of_skipSpace closed
      exact ⟨_, .emptyObject blank, by simp⟩
    · obtain ⟨⟨members, after⟩, membersRead, same⟩ :=
        Option.map_eq_some_iff.mp read
      obtain ⟨rfl, rfl⟩ := Prod.mk.inj same
      obtain ⟨text, written, skipped⟩ := reads.members membersRead
      obtain ⟨between, blank, rfl⟩ := exists_spacing_of_skipSpace skipped
      exact ⟨_, .object (written.prepend blank), by simp⟩
  · rename_i unsigned found
    obtain ⟨⟨literal, after⟩, numberRead, same⟩ :=
      Option.map_eq_some_iff.mp read
    obtain ⟨rfl, rfl⟩ := Prod.mk.inj same
    obtain ⟨sign, text, written, rfl⟩ := readUnsigned?_eq_some numberRead
    exact ⟨_, .number (.signed sign written), found⟩
  · obtain ⟨⟨literal, after⟩, numberRead, same⟩ :=
      Option.map_eq_some_iff.mp read
    obtain ⟨rfl, rfl⟩ := Prod.mk.inj same
    obtain ⟨sign, text, written, found⟩ := readUnsigned?_eq_some numberRead
    exact ⟨_, .number (.unsigned sign written), found⟩

theorem items_succ {items : List Document} (reads : ReadsWritten fuel)
    (read : readItems? (fuel + 1) input = some (items, rest)) :
    ∃ text, WritesItems items text ∧ input = text ++ some ']' :: rest := by
  unfold readItems? at read
  split at read
  · cases read
  · rename_i item following itemRead
    split at read
    · rename_i after closed
      obtain ⟨rfl, rfl⟩ := Prod.mk.inj (Option.some.inj read)
      obtain ⟨text, written, rfl⟩ := reads.padded itemRead closed
      exact ⟨text, .last written, rfl⟩
    · rename_i others separated
      obtain ⟨⟨rest, after⟩, restRead, same⟩ := Option.map_eq_some_iff.mp read
      obtain ⟨rfl, rfl⟩ := Prod.mk.inj same
      obtain ⟨text, written, rfl⟩ := reads.padded itemRead separated
      obtain ⟨restText, restWritten, rfl⟩ := reads.items restRead
      exact ⟨_, .more written restWritten, by simp⟩
    · cases read

theorem members_succ {members : List (List StringUnit × Document)}
    (reads : ReadsWritten fuel)
    (read : readMembers? (fuel + 1) input = some (members, rest)) :
    ∃ text, WritesMembers members text ∧
      input = text ++ some '\x7d' :: rest := by
  unfold readMembers? at read
  split at read
  · rename_i quoted opened
    obtain ⟨before, leading, rfl⟩ := exists_spacing_of_skipSpace opened
    split at read
    · cases read
    · rename_i name afterName nameRead
      obtain ⟨nameText, named, rfl⟩ := readString?_eq_some nameRead
      split at read
      · rename_i valueText colon
        obtain ⟨after, trailing, rfl⟩ := exists_spacing_of_skipSpace colon
        split at read
        · cases read
        · rename_i value following valueRead
          split at read
          · rename_i behind closed
            obtain ⟨rfl, rfl⟩ := Prod.mk.inj (Option.some.inj read)
            obtain ⟨text, written, rfl⟩ := reads.padded valueRead closed
            exact ⟨_, .last (.intro leading trailing named written), by simp⟩
          · rename_i others separated
            obtain ⟨⟨rest, behind⟩, restRead, same⟩ :=
              Option.map_eq_some_iff.mp read
            obtain ⟨rfl, rfl⟩ := Prod.mk.inj same
            obtain ⟨text, written, rfl⟩ := reads.padded valueRead separated
            obtain ⟨restText, restWritten, rfl⟩ := reads.members restRead
            exact ⟨_, .more (.intro leading trailing named written) restWritten,
              by simp⟩
          · cases read
      · cases read
  · cases read

end ReadsWritten

theorem readsWritten (fuel : Nat) : ReadsWritten fuel := by
  induction fuel with
  | zero =>
      constructor
      · intro input document rest read
        simp [readValue?] at read
      · intro input items rest read
        simp [readItems?] at read
      · intro input members rest read
        simp [readMembers?] at read
  | succ fuel ih => exact ⟨ih.value_succ, ih.items_succ, ih.members_succ⟩

/-! ### What is written is read -/

theorem ne_of_isDigitAscii {character : Char}
    (isDigit : isDigitAscii character = true) (other : Char)
    (notDigit : isDigitAscii other = false) : character ≠ other := by
  rintro rfl
  rw [notDigit] at isDigit
  cases isDigit

theorem isSpace_of_isDigitAscii {character : Char}
    (isDigit : isDigitAscii character = true) :
    isSpace (some character) = false := by
  have notSpace := ne_of_isDigitAscii isDigit ' ' (by decide)
  have notFeed := ne_of_isDigitAscii isDigit '\n' (by decide)
  have notTab := ne_of_isDigitAscii isDigit '\t' (by decide)
  have notReturn := ne_of_isDigitAscii isDigit '\r' (by decide)
  simp [isSpace, notSpace, notFeed, notTab, notReturn]

theorem WritesUnsigned.exists_digit {literal : NumberLiteral}
    {text : List Symbol} (written : WritesUnsigned literal text) :
    ∃ character rest, text = some character :: rest ∧
      isDigitAscii character = true := by
  cases written with
  | @intro whole fraction exponent written nonempty unpadded hasFraction
      hasExponent =>
      generalize literal.whole = digits at written nonempty
      cases written with
      | nil => exact absurd rfl nonempty
      | cons digit others =>
          obtain ⟨character, rfl, isDigit, -⟩ := digit
          exact ⟨character, _, rfl, isDigit⟩

/-- A value begins with no space, and not as the end of an array. -/
theorem WritesValue.exists_head {document : Document} {text : List Symbol}
    (written : WritesValue document text) :
    ∃ first rest, text = first :: rest ∧ isSpace first = false ∧
      first ≠ some ']' := by
  cases written with
  | null => exact ⟨_, _, rfl, by decide, by decide⟩
  | trueWord => exact ⟨_, _, rfl, by decide, by decide⟩
  | falseWord => exact ⟨_, _, rfl, by decide, by decide⟩
  | string written => exact ⟨_, _, rfl, by decide, by decide⟩
  | emptyArray spacing => exact ⟨_, _, rfl, by decide, by decide⟩
  | array written => exact ⟨_, _, rfl, by decide, by decide⟩
  | emptyObject spacing => exact ⟨_, _, rfl, by decide, by decide⟩
  | object written => exact ⟨_, _, rfl, by decide, by decide⟩
  | number written =>
      cases written with
      | signed sign written => exact ⟨_, _, rfl, by decide, by decide⟩
      | unsigned sign written =>
          obtain ⟨character, rest, rfl, isDigit⟩ := written.exists_digit
          refine ⟨_, _, rfl, isSpace_of_isDigitAscii isDigit, ?_⟩
          intro same
          exact ne_of_isDigitAscii isDigit ']' (by decide)
            (Option.some.inj same)

/-- The items of an array without the spacing before them. -/
theorem WritesItems.exists_head {items : List Document} {text : List Symbol}
    (written : WritesItems items text) :
    ∃ space first rest, text = space ++ first :: rest ∧ IsSpacing space ∧
      isSpace first = false ∧ first ≠ some ']' ∧
      WritesItems items (first :: rest) := by
  cases written with
  | last padded =>
      obtain ⟨leading, trailing, written⟩ := padded
      obtain ⟨first, rest, rfl, solid, unclosed⟩ := written.exists_head
      exact ⟨_, first, _, rfl, leading, solid, unclosed,
        .last (.intro isSpacing_nil trailing written)⟩
  | more padded others =>
      obtain ⟨leading, trailing, written⟩ := padded
      obtain ⟨first, rest, rfl, solid, unclosed⟩ := written.exists_head
      refine ⟨_, first, _, ?_, leading, solid, unclosed,
        .more (.intro isSpacing_nil trailing written) others⟩
      simp

/-- The members of an object without the spacing before them. -/
theorem WritesMembers.exists_head
    {members : List (List StringUnit × Document)} {text : List Symbol}
    (written : WritesMembers members text) :
    ∃ space rest, text = space ++ some '"' :: rest ∧ IsSpacing space ∧
      WritesMembers members (some '"' :: rest) := by
  cases written with
  | last member =>
      obtain ⟨leading, trailing, named, written⟩ := member
      exact ⟨_, _, rfl, leading,
        .last (.intro isSpacing_nil trailing named written)⟩
  | more member others =>
      obtain ⟨leading, trailing, named, written⟩ := member
      refine ⟨_, _, ?_, leading,
        .more (.intro isSpacing_nil trailing named written) others⟩
      simp

theorem readValue?_of_number {literal : NumberLiteral}
    {input text rest : List Symbol} (written : WritesNumber literal text)
    (ends : EndsValue rest) (skipped : skipSpace input = text ++ rest)
    (fuel : Nat) :
    readValue? (fuel + 1) input = some (.number literal, rest) := by
  cases written with
  | signed sign written =>
      have numberRead := readUnsigned?_append written ends
      rw [sign] at numberRead
      simp [readValue?, skipped, numberRead]
  | unsigned sign written =>
      have numberRead := readUnsigned?_append written ends
      obtain ⟨character, others, rfl, isDigit⟩ := written.exists_digit
      have distinct (other : Char) (notDigit : isDigitAscii other = false) :
          character ≠ other :=
        ne_of_isDigitAscii isDigit _ notDigit
      rw [sign] at numberRead
      simp [readValue?, skipped, distinct 'n' rfl, distinct 't' rfl,
        distinct 'f' rfl, distinct '"' rfl, distinct '[' rfl,
        distinct '\x7b' rfl, distinct '-' rfl] at numberRead ⊢
      exact numberRead

/-- What is written in a text that the fuel covers is read from it. -/
structure ReadsAll (fuel : Nat) : Prop where
  value : ∀ {document text}, WritesValue document text → text.length ≤ fuel →
    ∀ {space rest}, IsSpacing space → EndsValue rest →
      readValue? fuel (space ++ (text ++ rest)) = some (document, rest)
  items : ∀ {items text}, WritesItems items text → text.length < fuel →
    ∀ rest, readItems? fuel (text ++ some ']' :: rest) = some (items, rest)
  members : ∀ {members text}, WritesMembers members text → text.length < fuel →
    ∀ rest, readMembers? fuel (text ++ some '\x7d' :: rest) =
      some (members, rest)

namespace ReadsAll

variable {fuel : Nat} {text rest : List Symbol}

theorem value_succ {document : Document} {space : List Symbol}
    (reads : ReadsAll fuel) (written : WritesValue document text)
    (covered : text.length ≤ fuel + 1) (spacing : IsSpacing space)
    (ends : EndsValue rest) :
    readValue? (fuel + 1) (space ++ (text ++ rest)) =
      some (document, rest) := by
  have skipped : skipSpace (space ++ (text ++ rest)) = text ++ rest := by
    obtain ⟨first, others, rfl, solid, -⟩ := written.exists_head
    exact skipSpace_append_cons spacing solid
  generalize space ++ (text ++ rest) = input at skipped ⊢
  cases written with
  | null => simp [readValue?, skipped]
  | trueWord => simp [readValue?, skipped]
  | falseWord => simp [readValue?, skipped]
  | number written => exact readValue?_of_number written ends skipped fuel
  | string written =>
      have unitsRead := readString?_append written rest
      simp [readValue?, skipped, unitsRead]
  | @emptyArray between blank =>
      have closed : skipSpace (between ++ some ']' :: rest) =
          some ']' :: rest :=
        skipSpace_append_cons blank (by decide)
      simp [readValue?, skipped, closed]
  | @array items inside written =>
      obtain ⟨between, first, others, rfl, blank, solid, unclosed, written⟩ :=
        written.exists_head
      have opened : skipSpace
          (between ++ first :: (others ++ some ']' :: rest)) =
            first :: (others ++ some ']' :: rest) :=
        skipSpace_append_cons blank solid
      have itemsRead : readItems? fuel
          (first :: (others ++ some ']' :: rest)) = some (items, rest) := by
        simp only [List.length_cons, List.length_append,
          List.length_nil] at covered
        exact reads.items written (by simp only [List.length_cons]; omega) rest
      simp [readValue?, skipped, opened, unclosed, itemsRead]
  | @emptyObject between blank =>
      have closed : skipSpace (between ++ some '\x7d' :: rest) =
          some '\x7d' :: rest :=
        skipSpace_append_cons blank (by decide)
      simp [readValue?, skipped, closed]
  | @object members inside written =>
      obtain ⟨between, others, rfl, blank, written⟩ := written.exists_head
      have opened : skipSpace
          (between ++ some '"' :: (others ++ some '\x7d' :: rest)) =
            some '"' :: (others ++ some '\x7d' :: rest) :=
        skipSpace_append_cons blank (by decide)
      have membersRead : readMembers? fuel
          (some '"' :: (others ++ some '\x7d' :: rest)) =
            some (members, rest) := by
        simp only [List.length_cons, List.length_append,
          List.length_nil] at covered
        exact
          reads.members written (by simp only [List.length_cons]; omega) rest
      simp [readValue?, skipped, opened, membersRead]

/-- A value is read with the spacing before it, and what is behind it begins
with the spacing after it. -/
theorem padded {document : Document} (reads : ReadsAll fuel)
    (written : WritesPadded document text) (covered : text.length ≤ fuel)
    (first : Symbol) (rest : List Symbol) (solid : isSpace first = false)
    (ends : EndsValue (first :: rest)) :
    ∃ following, readValue? fuel (text ++ first :: rest) =
        some (document, following) ∧ skipSpace following = first :: rest := by
  cases written with
  | @intro _ before inner after leading trailing written =>
      simp only [List.length_append] at covered
      refine ⟨after ++ first :: rest, ?_, skipSpace_append_cons trailing solid⟩
      rw [List.append_assoc, List.append_assoc]
      exact reads.value written (by omega) leading (ends.append trailing)

theorem items_succ {items : List Document} (reads : ReadsAll fuel)
    (written : WritesItems items text) (covered : text.length < fuel + 1)
    (rest : List Symbol) :
    readItems? (fuel + 1) (text ++ some ']' :: rest) = some (items, rest) := by
  cases written with
  | last written =>
      obtain ⟨following, itemRead, closed⟩ :=
        reads.padded written (by omega) (some ']') rest (by decide)
          (by simp [EndsValue])
      simp [readItems?, itemRead, closed]
  | @more item items text others written more =>
      simp only [List.length_append, List.length_cons] at covered
      obtain ⟨following, itemRead, separated⟩ :=
        reads.padded written (by omega) (some ',') (others ++ some ']' :: rest)
          (by decide) (by simp [EndsValue])
      have moreRead := reads.items more (by omega) rest
      rw [List.append_assoc, List.cons_append]
      simp [readItems?, itemRead, separated, moreRead]

/-- How the reader of members goes on behind one of them. -/
def membersBehind? (fuel : Nat) (member : List StringUnit × Document) :
    List Symbol →
      Option (List (List StringUnit × Document) × List Symbol)
  | some '\x7d' :: after => some ([member], after)
  | some ',' :: more =>
      (readMembers? fuel more).map fun (members, after) =>
        (member :: members, after)
  | _ => none

theorem readMembers?_of_member {member : List StringUnit × Document}
    (reads : ReadsAll fuel) (written : WritesMember member text)
    (covered : text.length ≤ fuel) {first : Symbol}
    (solid : isSpace first = false) (ends : EndsValue (first :: rest)) :
    readMembers? (fuel + 1) (text ++ first :: rest) =
      membersBehind? fuel member (first :: rest) := by
  cases written with
  | @intro name value before nameText after text leading trailing named
      written =>
      simp only [List.length_append, List.length_cons] at covered
      obtain ⟨following, valueRead, behind⟩ :=
        reads.padded written (by omega) first rest solid ends
      have opened : skipSpace (before ++ some '"' :: (nameText ++ some '"' ::
          (after ++ some ':' :: (text ++ first :: rest)))) =
            some '"' :: (nameText ++ some '"' ::
              (after ++ some ':' :: (text ++ first :: rest))) :=
        skipSpace_append_cons leading (by decide)
      have nameRead := readString?_append named
        (after ++ some ':' :: (text ++ first :: rest))
      have colon : skipSpace (after ++ some ':' :: (text ++ first :: rest)) =
          some ':' :: (text ++ first :: rest) :=
        skipSpace_append_cons trailing (by decide)
      simp only [List.append_assoc, List.cons_append, readMembers?, opened,
        nameRead, colon, valueRead, behind]
      rfl

theorem members_succ {members : List (List StringUnit × Document)}
    (reads : ReadsAll fuel) (written : WritesMembers members text)
    (covered : text.length < fuel + 1) (rest : List Symbol) :
    readMembers? (fuel + 1) (text ++ some '\x7d' :: rest) =
      some (members, rest) := by
  cases written with
  | last written =>
      exact reads.readMembers?_of_member written (by omega) (by decide)
        (by simp [EndsValue])
  | @more member members text others written more =>
      simp only [List.length_append, List.length_cons] at covered
      have moreRead := reads.members more (by omega) rest
      rw [List.append_assoc, List.cons_append,
        reads.readMembers?_of_member written (by omega) (by decide)
          (by simp [EndsValue])]
      simp [membersBehind?, moreRead]

end ReadsAll

theorem readsAll (fuel : Nat) : ReadsAll fuel := by
  induction fuel with
  | zero =>
      constructor
      · intro document text written covered
        obtain ⟨first, rest, rfl, -⟩ := written.exists_head
        cases covered
      · intro items text written covered
        cases covered
      · intro members text written covered
        cases covered
  | succ fuel ih =>
      constructor
      · intro document text written covered space rest spacing ends
        exact ih.value_succ written covered spacing ends
      · intro items text written covered rest
        exact ih.items_succ written covered rest
      · intro members text written covered rest
        exact ih.members_succ written covered rest

/-- The reader of documents gives a document exactly for the texts that write
it. -/
theorem Document.read?_eq_some_iff {input : List Symbol} {document : Document} :
    Document.read? input = some document ↔ WritesPadded document input := by
  unfold Document.read?
  constructor
  · intro read
    split at read
    · rename_i found rest valueRead
      split at read
      · rename_i ended
        obtain rfl := Option.some.inj read
        obtain ⟨text, written, rfl⟩ :=
          (readsWritten (input.length + 1)).padded valueRead ended
        simpa using written
      · cases read
    · cases read
  · rintro ⟨leading, trailing, written⟩
    rename_i before text after
    have ends : EndsValue [] := trivial
    have valueRead := (readsAll ((before ++ (text ++ after)).length + 1)).value
      written (by simp only [List.length_append]; omega) leading
      (ends.append trailing)
    rw [List.append_nil] at valueRead
    have ended : skipSpace after = [] := by
      rw [← List.append_nil after, skipSpace_append trailing]
      rfl
    simp only [valueRead, ended]

end Gatekeeper.Json
