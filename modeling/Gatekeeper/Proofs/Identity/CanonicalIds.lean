import Gatekeeper.Proofs.Decision.Coherence

/-!
# Canonical ids

Which names have a canonical id, and which of them share one. A canonical id is
its own canonical id and the subject of a query, so that the engine finds fault
with the name of a caller before it forms a query or not at all.
-/

namespace Gatekeeper

open Gatekeeper.Text

namespace Identifier

/-! ### Bare names -/

/-- What is left of a name when the type of users is taken off its front once,
if it stands there. -/
inductive Leaves : List Char → List Char → Prop
  | typed (bare : List Char) : Leaves (userType ++ bare) bare
  | untyped (name : List Char) (lacksType : ¬ userType <+: name) :
      Leaves name name

theorem leaves_iff {name bare : List Char} :
    Leaves name bare ↔ withoutUserType name = bare := by
  unfold withoutUserType
  constructor
  · intro leaves
    cases leaves with
    | typed =>
        have stripped : stripLead? userType (userType ++ bare) = some bare :=
          stripLead?_eq_some_iff.mpr rfl
        rw [stripped, Option.getD_some]
    | untyped _ lacksType =>
        cases stripped : stripLead? userType name with
        | none => rfl
        | some rest =>
            rw [stripLead?_eq_some_iff.mp stripped] at lacksType
            exact absurd (List.prefix_append _ _) lacksType
  · rintro rfl
    cases stripped : stripLead? userType name with
    | some rest =>
        rw [stripLead?_eq_some_iff.mp stripped]
        exact .typed rest
    | none =>
        refine .untyped name ?_
        rintro ⟨rest, isTyped⟩
        rw [stripLead?_eq_some_iff.mpr isTyped.symm] at stripped
        cases stripped

/-! ### Names and their ids -/

theorem canonical_eq_ok_iff_leaves {name canonicalId : String} :
    canonical name = .ok canonicalId ↔
      ∃ bare, Leaves name.toList bare ∧ IsIdentifier bare ∧
        canonicalId.toList = userType ++ bare := by
  rw [canonical_eq_ok_iff_withoutUserType]
  simp only [leaves_iff, exists_eq_left', and_congr_right_iff]
  intro identifier
  rw [← String.toList_inj, String.toList_ofList]

theorem canonical_canonicalId {name canonicalId : String}
    (named : canonical name = .ok canonicalId) :
    canonical canonicalId = .ok canonicalId := by
  obtain ⟨bare, -, identifier, typed⟩ := canonical_eq_ok_iff_leaves.mp named
  refine canonical_eq_ok_iff_leaves.mpr ⟨bare, ?_, identifier, typed⟩
  rw [typed]
  exact .typed bare

/-- The only colon of a canonical id is that of its type. -/
theorem count_colon_canonicalId {name canonicalId : String}
    (named : canonical name = .ok canonicalId) :
    canonicalId.toList.count ':' = 1 := by
  obtain ⟨bare, -, identifier, typed⟩ := canonical_eq_ok_iff_leaves.mp named
  rw [typed, List.count_append,
    List.count_eq_zero_of_not_mem identifier.uncolon]
  rfl

/-- Names share a canonical id when they leave the same, and only then. -/
theorem canonical_eq_canonical_iff {first second : String} :
    (∃ canonicalId, canonical first = .ok canonicalId ∧
        canonical second = .ok canonicalId) ↔
      (∃ canonicalId, canonical first = .ok canonicalId) ∧
        ∃ bare, Leaves first.toList bare ∧ Leaves second.toList bare := by
  constructor
  · rintro ⟨canonicalId, named, alsoNamed⟩
    obtain ⟨bare, left, -, typed⟩ := canonical_eq_ok_iff_leaves.mp named
    obtain ⟨other, alsoLeft, -, alsoTyped⟩ :=
      canonical_eq_ok_iff_leaves.mp alsoNamed
    have same : bare = other :=
      List.append_cancel_left (typed.symm.trans alsoTyped)
    subst same
    exact ⟨⟨canonicalId, named⟩, bare, left, alsoLeft⟩
  · rintro ⟨⟨canonicalId, named⟩, bare, left, alsoLeft⟩
    obtain ⟨own, ownLeft, identifier, typed⟩ :=
      canonical_eq_ok_iff_leaves.mp named
    have same : own = bare :=
      (leaves_iff.mp ownLeft).symm.trans (leaves_iff.mp left)
    subst same
    exact ⟨canonicalId, named,
      canonical_eq_ok_iff_leaves.mpr ⟨own, alsoLeft, identifier, typed⟩⟩

end Identifier

/-! ### Callers of the engine -/

theorem RelationQuery.ofParts_ne_subject {subject relation object : String}
    (user : IsUser subject.toList) (text : String) (fault : PartFault) :
    RelationQuery.ofParts subject relation object ≠
      .error (.subject text fault) := by
  have unfaulty : subjectFault? subject.toList = none :=
    subjectFault?_eq_none_iff.mpr user
  unfold RelationQuery.ofParts
  rw [unfaulty]
  cases relationFault? relation.toList with
  | some _ => simp
  | none => cases objectFault? object.toList <;> simp

theorem resolveCaller_eq_invalidIdentifier {authentication : Authentication}
    {ending : Ending}
    (unresolved : resolveCaller authentication = .error ending)
    (invalidName : ending.reason = .invalidIdentifier) :
    ∃ claims invalid, authentication = .ok claims ∧
      Identifier.canonical claims.username = .error invalid ∧
      ending = .deniedAtStart .invalidIdentifier (some invalid.message) := by
  rcases authentication with (detail | detail) | claims
  · cases unresolved
    cases invalidName
  · cases unresolved
    cases invalidName
  · cases named : Identifier.canonical claims.username with
    | error invalid =>
        simp only [resolveCaller, Principal.ofClaims, named,
          Except.error.injEq] at unresolved
        exact ⟨claims, invalid, rfl, named, unresolved.symm⟩
    | ok canonicalId =>
        simp [resolveCaller, Principal.ofClaims, named] at unresolved

namespace Collaborators

variable {State : Type}

/-- A caller is turned away for its name only when the provider vouches for a
name without a canonical id, and then before a query is formed. -/
theorem decide_eq_invalidIdentifier {collaborators : Collaborators State}
    {policy : FallbackPolicy} {request : AccessRequest} {state : State}
    (invalidName :
      (collaborators.decide policy request state).1.reason =
        .invalidIdentifier) :
    ∃ token claims invalid, request.credential = .bearer token ∧
      (collaborators.authenticate token state).1 = .ok claims ∧
      Identifier.canonical claims.username = .error invalid ∧
      collaborators.decide policy request state =
        (.deniedAtStart .invalidIdentifier (some invalid.message),
          (collaborators.authenticate token state).2) := by
  unfold decide at invalidName ⊢
  cases credential : request.credential with
  | missing => simp [credential, Ending.deniedAtStart] at invalidName
  | malformed => simp [credential, Ending.deniedAtStart] at invalidName
  | bearer token =>
      cases resolved :
          resolveCaller (collaborators.authenticate token state).1 with
      | error ending =>
          simp only [credential, resolved] at invalidName
          obtain ⟨claims, invalid, authenticated, named, rfl⟩ :=
            resolveCaller_eq_invalidIdentifier resolved invalidName
          exact ⟨token, claims, invalid, rfl, authenticated, named, by
            simp only [resolved]⟩
      | ok principal =>
          cases formed : formQuery principal request with
          | error ending =>
              -- a resolved caller is the subject of a query
              obtain ⟨detail, rfl⟩ :=
                formQuery_eq_error (isUser_of_resolveCaller resolved) formed
              simp [credential, resolved, formed,
                Ending.deniedUnasked] at invalidName
          | ok query =>
              have given := Ending.reason_ofAnswer policy principal
                (collaborators.check query
                  (collaborators.authenticate token state).2).1
              simp only [credential, resolved, formed] at invalidName
              rw [invalidName] at given
              exact absurd given (by decide)

/-- The canonical ids. A name has one when what it leaves behind the type of
users is an identifier, and then the id is that identifier behind the type.
Names share an id exactly when they leave the same. Every canonical id is the
subject of a query, so the engine never finds fault with a caller once it has
one. -/
theorem canonical_ids (collaborators : Collaborators State) :
    (∀ name : List Char, ∃ bare, Identifier.Leaves name bare ∧
      ∀ other, Identifier.Leaves name other → other = bare) ∧
    (∀ name canonicalId, Identifier.canonical name = .ok canonicalId ↔
      ∃ bare, Identifier.Leaves name.toList bare ∧
        (1 ≤ (String.ofList bare).utf8ByteSize ∧
          (String.ofList bare).utf8ByteSize ≤ 256 ∧
          ∀ character ∈ bare, isBlank character = false ∧
            isControl character = false ∧ character ≠ ':' ∧
            character ≠ '#') ∧
        canonicalId.toList = Identifier.userType ++ bare) ∧
    (∀ name canonicalId, Identifier.canonical name = .ok canonicalId →
      Identifier.canonical canonicalId = .ok canonicalId ∧
        canonicalId.toList.count ':' = 1) ∧
    (∀ first second : String,
      (∃ canonicalId, Identifier.canonical first = .ok canonicalId ∧
          Identifier.canonical second = .ok canonicalId) ↔
        (∃ canonicalId, Identifier.canonical first = .ok canonicalId) ∧
          ∃ bare, Identifier.Leaves first.toList bare ∧
            Identifier.Leaves second.toList bare) ∧
    (∀ name canonicalId, Identifier.canonical name = .ok canonicalId →
      ∀ relation object text fault,
        RelationQuery.ofParts canonicalId relation object ≠
          .error (.subject text fault)) ∧
    ∀ policy request state,
      (collaborators.decide policy request state).1.reason =
          .invalidIdentifier →
        ∃ token claims invalid, request.credential = .bearer token ∧
          (collaborators.authenticate token state).1 = .ok claims ∧
          Identifier.canonical claims.username = .error invalid ∧
          collaborators.decide policy request state =
            (.deniedAtStart .invalidIdentifier (some invalid.message),
              (collaborators.authenticate token state).2) := by
  refine ⟨?_, ?_, ?_, ?_, ?_, ?_⟩
  · intro name
    refine ⟨_, Identifier.leaves_iff.mpr rfl, ?_⟩
    intro other leaves
    exact (Identifier.leaves_iff.mp leaves).symm
  · intro name canonicalId
    simp only [← Identifier.isIdentifier_iff]
    exact Identifier.canonical_eq_ok_iff_leaves
  · intro name canonicalId named
    exact ⟨Identifier.canonical_canonicalId named,
      Identifier.count_colon_canonicalId named⟩
  · intro first second
    exact Identifier.canonical_eq_canonical_iff
  · intro name canonicalId named relation object text fault
    exact RelationQuery.ofParts_ne_subject (isUser_of_canonical named) text
      fault
  · intro policy request state invalidName
    exact decide_eq_invalidIdentifier invalidName

end Collaborators

end Gatekeeper
