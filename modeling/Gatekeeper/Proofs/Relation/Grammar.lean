import Gatekeeper.Relation.Query
import Mathlib.Data.List.Basic

/-!
# Grammar of relation tuples

What the parts of a query look like, and that the checks find a fault in
exactly the other texts. A canonical id is always a subject.
-/

namespace Gatekeeper

open Gatekeeper.Text

/-! ### Identifiers -/

/-- A text that names a user or an object within its type. -/
structure IsIdentifier (text : List Char) : Prop where
  nonempty : text ≠ []
  short : utf8Length text ≤ Identifier.maxLength
  plain : ∀ character ∈ text, isBlank character = false ∧
    isControl character = false ∧ character ≠ ':' ∧ character ≠ '#'

theorem IsIdentifier.uncolon {text : List Char}
    (identifier : IsIdentifier text) :
    ':' ∉ text := by
  intro member
  exact (identifier.plain ':' member).2.2.1 rfl

namespace Identifier

theorem characterFault?_eq_none_iff {character : Char} :
    characterFault? character = none ↔
      isBlank character = false ∧ isControl character = false ∧
        character ≠ ':' ∧ character ≠ '#' := by
  unfold characterFault?
  cases isBlank character with
  | true => simp
  | false =>
      cases isControl character with
      | true => simp
      | false =>
          by_cases colon : character = ':'
          · simp [colon]
          · by_cases hash : character = '#'
            · simp [hash]
            · simp [colon, hash]

theorem fault?_eq_none_iff {text : List Char} :
    fault? text = none ↔ IsIdentifier text := by
  unfold fault?
  by_cases empty : text = []
  · subst empty
    simp only [List.isEmpty_nil, if_true, reduceCtorEq, false_iff]
    intro identifier
    exact identifier.nonempty rfl
  · by_cases long : maxLength < utf8Length text
    · simp only [List.isEmpty_iff, empty, long, if_true, if_false, reduceCtorEq,
        false_iff]
      intro identifier
      have := identifier.short
      omega
    · simp only [List.isEmpty_iff, empty, long, if_false,
        List.findSome?_eq_none_iff, characterFault?_eq_none_iff]
      constructor
      · intro plain
        exact ⟨empty, by omega, plain⟩
      · intro identifier
        exact identifier.plain

theorem utf8ByteSize_ofList_eq (text : List Char) :
    (String.ofList text).utf8ByteSize = utf8Length text := by
  induction text with
  | nil => rfl
  | cons character rest ih =>
      rw [String.ofList_cons, String.utf8ByteSize_append,
        String.utf8ByteSize_singleton, ih, utf8Length]

theorem isIdentifier_iff {text : List Char} :
    IsIdentifier text ↔
      1 ≤ (String.ofList text).utf8ByteSize ∧
        (String.ofList text).utf8ByteSize ≤ 256 ∧
        ∀ character ∈ text, isBlank character = false ∧
          isControl character = false ∧ character ≠ ':' ∧ character ≠ '#' := by
  have nonempty : text ≠ [] ↔ 1 ≤ utf8Length text := by
    cases text with
    | nil => simp [utf8Length]
    | cons character rest =>
        have := character.utf8Size_pos
        simp only [utf8Length, ne_eq, reduceCtorEq, not_false_eq_true, true_iff]
        omega
  rw [utf8ByteSize_ofList_eq, ← nonempty]
  constructor
  · intro identifier
    exact ⟨identifier.nonempty, identifier.short, identifier.plain⟩
  · rintro ⟨isNonempty, short, plain⟩
    exact ⟨isNonempty, short, plain⟩

theorem canonical_eq_ok_iff_withoutUserType {name canonicalId : String} :
    canonical name = .ok canonicalId ↔
      IsIdentifier (withoutUserType name.toList) ∧
        canonicalId =
          String.ofList (userType ++ withoutUserType name.toList) := by
  rw [← fault?_eq_none_iff]
  cases found : fault? (withoutUserType name.toList) with
  | some fault => simp [canonical, found]
  | none => simp only [canonical, found, Except.ok.injEq, true_and, eq_comm]

/-- A name has a canonical id when it is an identifier, or one behind the type
of users. -/
theorem canonical_eq_ok_iff {name canonicalId : String} :
    canonical name = .ok canonicalId ↔
      ∃ bare, IsIdentifier bare ∧
        (name.toList = bare ∨ name.toList = userType ++ bare) ∧
        canonicalId = String.ofList (userType ++ bare) := by
  rw [canonical_eq_ok_iff_withoutUserType]
  unfold withoutUserType
  cases stripped : stripLead? userType name.toList with
  | some bare =>
      have typed := stripLead?_eq_some_iff.mp stripped
      simp only [Option.getD_some]
      constructor
      · rintro ⟨identifier, rfl⟩
        exact ⟨bare, identifier, .inr typed, rfl⟩
      · rintro ⟨other, identifier, untyped | alsoTyped, rfl⟩
        · -- an identifier holds no colon, so it cannot carry the type
          have colon : ':' ∈ other := by simp [← untyped, typed, userType]
          exact absurd colon identifier.uncolon
        · have same := List.append_cancel_left (typed.symm.trans alsoTyped)
          subst same
          exact ⟨identifier, rfl⟩
  | none =>
      simp only [Option.getD_none]
      constructor
      · rintro ⟨identifier, rfl⟩
        exact ⟨name.toList, identifier, .inl rfl, rfl⟩
      · rintro ⟨bare, identifier, rfl | typed, rfl⟩
        · exact ⟨identifier, rfl⟩
        · rw [stripLead?_eq_some_iff.mpr typed] at stripped
          cases stripped

end Identifier

/-! ### Parts of queries -/

/-- A relation or a type of objects, by the characters that it may hold. -/
structure IsName (isAllowed : Char → Bool) (text : List Char) : Prop where
  start : ∃ first rest, text = first :: rest ∧ isLowerAscii first = true
  short : utf8Length text ≤ maxNameLength
  allowed : ∀ character ∈ text, isAllowed character = true

/-- The type of users and an identifier. -/
def IsUser (text : List Char) : Prop :=
  ∃ id, text = Identifier.userType ++ id ∧ IsIdentifier id

/-- A type and an identifier with a colon between them. -/
def IsObject (text : List Char) : Prop :=
  ∃ objectType id, text = objectType ++ ':' :: id ∧
    IsName isTypeCharacter objectType ∧ IsIdentifier id

theorem IsName.uncolon {objectType : List Char}
    (name : IsName isTypeCharacter objectType) : ':' ∉ objectType := by
  intro member
  exact absurd (name.allowed ':' member) (by decide)

/-- A text with a colon is an object only when its type ends at that colon, as
neither the type nor the identifier holds another one. -/
theorem isObject_append_iff {objectType id : List Char} :
    IsObject (objectType ++ ':' :: id) ↔
      IsName isTypeCharacter objectType ∧ IsIdentifier id := by
  constructor
  · rintro ⟨otherType, otherId, same, name, identifier⟩
    obtain ⟨rfl, -, rfl⟩ := (List.append_cons_inj_of_notMem name.uncolon
      identifier.uncolon).mp same.symm
    exact ⟨name, identifier⟩
  · rintro ⟨name, identifier⟩
    exact ⟨objectType, id, rfl, name, identifier⟩

theorem subjectFault?_eq_none_iff {subject : List Char} :
    subjectFault? subject = none ↔ IsUser subject := by
  unfold subjectFault? IsUser
  simp only [← stripLead?_eq_some_iff]
  cases stripLead? Identifier.userType subject with
  | none => simp
  | some id => simp [Identifier.fault?_eq_none_iff]

/-- The shape that the checks of a relation and of a type share. -/
private theorem nameFault?_eq_none_iff {isAllowed : Char → Bool}
    {empty long start character : PartFault} {text : List Char} :
    (match text with
      | [] => some empty
      | first :: _ =>
          if maxNameLength < utf8Length text then some long
          else if !isLowerAscii first then some start
          else if !text.all isAllowed then some character
          else none) = none ↔ IsName isAllowed text := by
  cases text with
  | nil =>
      simp only [reduceCtorEq, false_iff]
      rintro ⟨⟨first, rest, isCons, -⟩, -, -⟩
      cases isCons
  | cons first rest =>
      by_cases tooLong : maxNameLength < utf8Length (first :: rest)
      · simp only [tooLong, if_true, reduceCtorEq, false_iff]
        intro name
        have := name.short
        omega
      · simp only [tooLong, if_false]
        cases lower : isLowerAscii first with
        | false =>
            simp only [Bool.not_false, if_true, reduceCtorEq, false_iff]
            rintro ⟨⟨other, others, isCons, otherLower⟩, -, -⟩
            rw [← (List.cons.inj isCons).1, lower] at otherLower
            cases otherLower
        | true =>
            cases all : (first :: rest).all isAllowed with
            | false =>
                simp only [Bool.not_true, Bool.false_eq_true, if_false,
                  Bool.not_false, if_true, reduceCtorEq, false_iff]
                intro name
                rw [List.all_eq_true.mpr name.allowed] at all
                cases all
            | true =>
                simp only [Bool.not_true, Bool.false_eq_true, if_false,
                  true_iff]
                exact ⟨⟨first, rest, rfl, lower⟩, by omega,
                  List.all_eq_true.mp all⟩

theorem relationFault?_eq_none_iff {relation : List Char} :
    relationFault? relation = none ↔ IsName isRelationCharacter relation :=
  nameFault?_eq_none_iff

theorem typeFault?_eq_none_iff {objectType : List Char} :
    typeFault? objectType = none ↔ IsName isTypeCharacter objectType :=
  nameFault?_eq_none_iff

theorem objectFault?_eq_none_iff {object : List Char} :
    objectFault? object = none ↔ IsObject object := by
  unfold objectFault?
  cases split : splitFirst? ':' object with
  | none =>
      simp only [reduceCtorEq, false_iff]
      rintro ⟨objectType, id, rfl, name, -⟩
      rw [splitFirst?_eq_some_iff.mpr ⟨rfl, name.uncolon⟩] at split
      cases split
  | some parts =>
      obtain ⟨objectType, id⟩ := parts
      obtain ⟨rfl, -⟩ := splitFirst?_eq_some_iff.mp split
      rw [isObject_append_iff, ← typeFault?_eq_none_iff,
        ← Identifier.fault?_eq_none_iff]
      cases typed : typeFault? objectType <;> simp [typed]

/-! ### Queries -/

theorem RelationQuery.ofParts_eq_ok_iff {subject relation object : String}
    {query : RelationQuery} :
    RelationQuery.ofParts subject relation object = .ok query ↔
      IsUser subject.toList ∧ IsName isRelationCharacter relation.toList ∧
        IsObject object.toList ∧ query = ⟨subject, relation, object⟩ := by
  rw [← subjectFault?_eq_none_iff, ← relationFault?_eq_none_iff,
    ← objectFault?_eq_none_iff]
  unfold RelationQuery.ofParts
  cases subjectFault? subject.toList with
  | some fault => simp
  | none =>
      cases relationFault? relation.toList with
      | some fault => simp
      | none => cases objectFault? object.toList <;> simp [eq_comm]

theorem isUser_of_canonical {name canonicalId : String}
    (isCanonical : Identifier.canonical name = .ok canonicalId) :
    IsUser canonicalId.toList := by
  obtain ⟨bare, identifier, -, rfl⟩ :=
    Identifier.canonical_eq_ok_iff.mp isCanonical
  exact ⟨bare, String.toList_ofList, identifier⟩

end Gatekeeper
