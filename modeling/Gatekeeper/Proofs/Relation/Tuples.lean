import Gatekeeper.Proofs.Relation.Grammar
import Mathlib.Data.List.Count

/-!
# Texts of relation tuples

The grammar of relation tuples in terms of texts and bytes. A query is formed
of exactly the three texts that follow it, and of any others the first that
does not is named.
-/

namespace Gatekeeper

open Gatekeeper.Text

/-! ### The grammar -/

/-- 1 to 256 bytes, among them no blank, no control character and neither
separator. -/
structure SpellsIdentifier (text : String) : Prop where
  least : 1 ≤ text.utf8ByteSize
  most : text.utf8ByteSize ≤ 256
  plain : ∀ character ∈ text.toList, isBlank character = false ∧
    isControl character = false ∧ character ≠ ':' ∧ character ≠ '#'

/-- A lower case letter, and then such letters, digits and some marks; 64 bytes
at most. -/
structure SpellsName (marks : List Char) (text : String) : Prop where
  spelled : ∃ first rest, text.toList = first :: rest ∧
    ('a' ≤ first ∧ first ≤ 'z') ∧
    ∀ character ∈ rest, ('a' ≤ character ∧ character ≤ 'z') ∨
      ('0' ≤ character ∧ character ≤ '9') ∨ character ∈ marks
  short : text.utf8ByteSize ≤ 64

def SpellsSubject (text : String) : Prop :=
  ∃ id, text = "user:" ++ id ∧ SpellsIdentifier id

def SpellsRelation (text : String) : Prop :=
  SpellsName ['_'] text

def SpellsObject (text : String) : Prop :=
  ∃ objectType id, text = objectType ++ ":" ++ id ∧
    SpellsName ['_', '-'] objectType ∧ SpellsIdentifier id

/-! ### Texts and their characters -/

theorem spellsIdentifier_iff {text : String} :
    SpellsIdentifier text ↔ IsIdentifier text.toList := by
  rw [Identifier.isIdentifier_iff, String.ofList_toList]
  constructor
  · rintro ⟨least, most, plain⟩
    exact ⟨least, most, plain⟩
  · rintro ⟨least, most, plain⟩
    exact ⟨least, most, plain⟩

theorem spellsName_iff {marks : List Char} {isAllowed : Char → Bool}
    (allows : ∀ character, isAllowed character = true ↔
      ('a' ≤ character ∧ character ≤ 'z') ∨
        ('0' ≤ character ∧ character ≤ '9') ∨ character ∈ marks)
    {text : String} :
    SpellsName marks text ↔ IsName isAllowed text.toList := by
  have size : utf8Length text.toList = text.utf8ByteSize := by
    rw [← Identifier.utf8ByteSize_ofList_eq, String.ofList_toList]
  constructor
  · rintro ⟨⟨first, rest, isCons, lower, others⟩, short⟩
    refine ⟨⟨first, rest, isCons, by simpa [isLowerAscii] using lower⟩,
      size ▸ short, ?_⟩
    rw [isCons, List.forall_mem_cons]
    exact ⟨(allows first).mpr (.inl lower),
      fun character member => (allows character).mpr (others _ member)⟩
  · rintro ⟨⟨first, rest, isCons, lower⟩, short, allowed⟩
    rw [isCons, List.forall_mem_cons] at allowed
    exact ⟨⟨first, rest, isCons, by simpa [isLowerAscii] using lower,
      fun character member => (allows character).mp (allowed.2 _ member)⟩,
      size ▸ short⟩

theorem spellsSubject_iff {text : String} :
    SpellsSubject text ↔ IsUser text.toList := by
  constructor
  · rintro ⟨id, rfl, identifier⟩
    exact ⟨id.toList, String.toList_append,
      spellsIdentifier_iff.mp identifier⟩
  · rintro ⟨id, typed, identifier⟩
    refine ⟨String.ofList id, ?_, spellsIdentifier_iff.mpr ?_⟩
    · rw [← String.toList_inj, typed]
      simp [String.toList_append, Identifier.userType]
    · rwa [String.toList_ofList]

theorem spellsRelation_iff {text : String} :
    SpellsRelation text ↔ IsName isRelationCharacter text.toList :=
  spellsName_iff fun character => by
    simp [isRelationCharacter, isLowerAscii, isDigitAscii, or_assoc]

theorem spellsType_iff {text : String} :
    SpellsName ['_', '-'] text ↔ IsName isTypeCharacter text.toList :=
  spellsName_iff fun character => by
    simp [isTypeCharacter, isRelationCharacter, isLowerAscii, isDigitAscii,
      or_assoc]

theorem spellsObject_iff {text : String} :
    SpellsObject text ↔ IsObject text.toList := by
  constructor
  · rintro ⟨objectType, id, rfl, name, identifier⟩
    refine ⟨objectType.toList, id.toList, ?_, spellsType_iff.mp name,
      spellsIdentifier_iff.mp identifier⟩
    simp [String.toList_append]
  · rintro ⟨objectType, id, split, name, identifier⟩
    refine ⟨String.ofList objectType, String.ofList id, ?_,
      spellsType_iff.mpr ?_, spellsIdentifier_iff.mpr ?_⟩
    · rw [← String.toList_inj, split]
      simp [String.toList_append]
    · rwa [String.toList_ofList]
    · rwa [String.toList_ofList]

/-! ### Characters of accepted texts -/

/-- A character that can be seen and is not the mark of a user set. -/
structure IsPlain (character : Char) : Prop where
  unhashed : character ≠ '#'
  unblank : isBlank character = false
  uncontrolled : isControl character = false

theorem IsIdentifier.isPlain {id : List Char} (identifier : IsIdentifier id) :
    ∀ character ∈ id, IsPlain character := by
  intro character member
  obtain ⟨unblank, uncontrolled, -, unhashed⟩ := identifier.plain _ member
  exact ⟨unhashed, unblank, uncontrolled⟩

theorem isPlain_of_isTypeCharacter {character : Char}
    (allowed : isTypeCharacter character = true) : IsPlain character := by
  have among : (97 ≤ character.toNat ∧ character.toNat ≤ 122) ∨
      (48 ≤ character.toNat ∧ character.toNat ≤ 57) ∨
      character = '_' ∨ character = '-' := by
    simpa [isTypeCharacter, isRelationCharacter, isLowerAscii, isDigitAscii,
      or_assoc, Char.le_def, UInt32.le_iff_toNat_le] using allowed
  have range : 45 ≤ character.toNat ∧ character.toNat ≤ 122 := by
    rcases among with lower | digit | rfl | rfl
    · omega
    · omega
    · decide
    · decide
  refine ⟨?_, ?_, ?_⟩
  · rintro rfl
    exact absurd range (by decide)
  · simp [isBlank]
    omega
  · simp [isControl]
    omega

theorem IsName.isPlain {relation : List Char}
    (name : IsName isRelationCharacter relation) :
    ∀ character ∈ relation, IsPlain character := by
  intro character member
  refine isPlain_of_isTypeCharacter ?_
  rw [isTypeCharacter, name.allowed character member, Bool.true_or]

theorem IsObject.isPlain {object : List Char} (isObject : IsObject object) :
    ∀ character ∈ object, IsPlain character := by
  obtain ⟨objectType, id, rfl, name, identifier⟩ := isObject
  intro character member
  rw [List.mem_append, List.mem_cons] at member
  rcases member with typed | rfl | named
  · exact isPlain_of_isTypeCharacter (name.allowed character typed)
  · exact ⟨by decide, by decide, by decide⟩
  · exact identifier.isPlain character named

theorem IsObject.count_colon {object : List Char} (isObject : IsObject object) :
    object.count ':' = 1 := by
  obtain ⟨objectType, id, rfl, name, identifier⟩ := isObject
  rw [List.count_append, List.count_cons_self,
    List.count_eq_zero_of_not_mem name.uncolon,
    List.count_eq_zero_of_not_mem identifier.uncolon]

/-- A user is an object of the type of users. -/
theorem IsUser.isObject {subject : List Char} (user : IsUser subject) :
    IsObject subject := by
  obtain ⟨id, rfl, identifier⟩ := user
  have name : IsName isTypeCharacter ['u', 's', 'e', 'r'] :=
    ⟨⟨'u', ['s', 'e', 'r'], rfl, by decide⟩, by decide,
      List.all_eq_true.mp (by decide)⟩
  exact ⟨['u', 's', 'e', 'r'], id, rfl, name, identifier⟩

/-! ### Queries -/

namespace RelationQuery

/-- The parts are looked at in their order: the fault of a part is given when
the parts before it have none. -/
theorem ofParts_cases (subject relation object : String) :
    (¬ SpellsSubject subject ∧
      ∃ fault, ofParts subject relation object =
        .error (.subject subject fault)) ∨
    (SpellsSubject subject ∧ ¬ SpellsRelation relation ∧
      ∃ fault, ofParts subject relation object =
        .error (.relation relation fault)) ∨
    (SpellsSubject subject ∧ SpellsRelation relation ∧ ¬ SpellsObject object ∧
      ∃ fault, ofParts subject relation object =
        .error (.object object fault)) ∨
    SpellsSubject subject ∧ SpellsRelation relation ∧ SpellsObject object ∧
      ofParts subject relation object = .ok ⟨subject, relation, object⟩ := by
  simp only [spellsSubject_iff, spellsRelation_iff, spellsObject_iff,
    ← subjectFault?_eq_none_iff, ← relationFault?_eq_none_iff,
    ← objectFault?_eq_none_iff, ofParts]
  cases subjectFault? subject.toList with
  | some fault => simp
  | none =>
      cases relationFault? relation.toList with
      | some fault => simp
      | none => cases objectFault? object.toList <;> simp

/-- The grammar of relation tuples. A query is formed of exactly the texts that
follow it and carries them as they are. Of other texts the first that does not
follow it is named, in the order of the parts. So a query holds no mark of a
user set, no blank and no control character, and its subject and its object
hold one colon each. -/
theorem tuple_grammar (subject relation object : String) :
    (∀ query, ofParts subject relation object = .ok query ↔
      SpellsSubject subject ∧ SpellsRelation relation ∧ SpellsObject object ∧
        query = ⟨subject, relation, object⟩) ∧
    ((∃ fault, ofParts subject relation object =
        .error (.subject subject fault)) ↔ ¬ SpellsSubject subject) ∧
    ((∃ fault, ofParts subject relation object =
        .error (.relation relation fault)) ↔
      SpellsSubject subject ∧ ¬ SpellsRelation relation) ∧
    ((∃ fault, ofParts subject relation object =
        .error (.object object fault)) ↔
      SpellsSubject subject ∧ SpellsRelation relation ∧
        ¬ SpellsObject object) ∧
    ∀ query, ofParts subject relation object = .ok query →
      (∀ text ∈ [query.subject, query.relation, query.object],
        ∀ character ∈ text.toList, character ≠ '#' ∧
          isBlank character = false ∧ isControl character = false) ∧
        query.subject.toList.count ':' = 1 ∧
        query.object.toList.count ':' = 1 := by
  rcases ofParts_cases subject relation object with
    ⟨unspelled, fault, refused⟩ | ⟨spelled, unspelled, fault, refused⟩ |
      ⟨spelled, named, unspelled, fault, refused⟩ |
      ⟨spelled, named, written, accepted⟩
  · simp [refused, unspelled]
  · simp [refused, spelled, unspelled]
  · simp [refused, spelled, named, unspelled]
  · have user := (spellsSubject_iff.mp spelled).isObject
    have relational := spellsRelation_iff.mp named
    have typed := spellsObject_iff.mp written
    refine ⟨?_, ?_, ?_, ?_, ?_⟩
    · simp [accepted, spelled, named, written, eq_comm]
    · simp [accepted, spelled]
    · simp [accepted, named]
    · simp [accepted, written]
    · rintro query formed
      rw [accepted] at formed
      obtain rfl := Except.ok.inj formed
      refine ⟨?_, user.count_colon, typed.count_colon⟩
      intro text member character held
      have plain : IsPlain character := by
        simp only [List.mem_cons, List.not_mem_nil, or_false] at member
        rcases member with rfl | rfl | rfl
        · exact user.isPlain character held
        · exact relational.isPlain character held
        · exact typed.isPlain character held
      exact ⟨plain.unhashed, plain.unblank, plain.uncontrolled⟩

end RelationQuery

end Gatekeeper
