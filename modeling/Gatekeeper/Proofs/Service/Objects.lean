import Gatekeeper.Proofs.Service.Forwarding
import Gatekeeper.Proofs.Target.Segments

/-!
# Objects of requests

Which object the backend is asked about. A path names an object by two of its
segments, whatever they hold, and a colon is put between them. An object that
follows the grammar has no other colon, so it falls into its type and its id in
one way only: these are the two segments, and no other path is asked about as
the same object.
-/

namespace Gatekeeper

open Gatekeeper.Http
open Gatekeeper.Text

/-! ### Objects and their parts -/

/-- An object falls into a type and an id at its only colon. -/
structure SplitsInto (object : String) (kind id : List Char) : Prop where
  parts : object.toList = kind ++ ':' :: id
  single : object.toList.count ':' = 1
  kind : IsName isTypeCharacter kind
  id : IsIdentifier id

theorem SplitsInto.unique {object : String}
    {kind id otherKind otherId : List Char}
    (splits : SplitsInto object kind id)
    (parts : object.toList = otherKind ++ ':' :: otherId) :
    kind = otherKind ∧ id = otherId := by
  rw [splits.parts] at parts
  obtain ⟨sameKind, -, sameId⟩ := (List.append_cons_inj_of_notMem
    splits.kind.uncolon splits.id.uncolon).mp parts
  exact ⟨sameKind, sameId⟩

namespace TargetRules

variable {rules : TargetRules} {path : String} {kind id : List Char}

/-- The object that a path names falls into the segments of the path, if a query
accepts it. -/
theorem Names.splitsInto (named : rules.Names path kind id)
    (accepted : IsObject (rules.object path).toList) :
    SplitsInto (rules.object path) kind id := by
  have parts : (rules.object path).toList = kind ++ ':' :: id := by
    rw [object_of_names named, String.toList_ofList]
  rw [parts] at accepted
  obtain ⟨name, identifier⟩ := isObject_append_iff.mp accepted
  refine ⟨parts, ?_, name, identifier⟩
  rw [parts, List.count_append, List.count_cons_self,
    List.count_eq_zero_of_not_mem name.uncolon,
    List.count_eq_zero_of_not_mem identifier.uncolon]

/-- An object other than the default one is the object of exactly the paths that
name it, if its parts hold no colon. -/
theorem object_eq_iff_names (uncolonKind : ':' ∉ kind) (uncolonId : ':' ∉ id)
    (other : String.ofList (kind ++ ':' :: id) ≠ rules.defaultObject) :
    rules.object path = String.ofList (kind ++ ':' :: id) ↔
      rules.Names path kind id := by
  refine ⟨?_, object_of_names⟩
  intro same
  by_cases named : ∃ otherKind otherId, rules.Names path otherKind otherId
  · obtain ⟨otherKind, otherId, named⟩ := named
    rw [object_of_names named, String.ofList_inj] at same
    obtain ⟨rfl, -, rfl⟩ :=
      (List.append_cons_inj_of_notMem uncolonKind uncolonId).mp same.symm
    exact named
  · rw [object_of_nameless named] at same
    exact absurd same.symm other

end TargetRules

/-! ### Objects of checks -/

namespace Boundary

variable {State Store : Type} {boundary : Boundary State Store}
  {occasion : Occasion} {request : Request} {passage : Passage} {state : State}
  {store : Store}

/-- The backend is asked about the two segments that the path names an object
by, and about no others. -/
theorem splitsInto_of_mem_checks
    (guarded : boundary.target.passage? boundary.scope request = some passage)
    {kind id : List Char} (named : boundary.target.Names passage.path kind id)
    {query : RelationQuery}
    (asked : query ∈ (boundary.account occasion request state store).checks) :
    SplitsInto query.object kind id := by
  obtain ⟨principal, answer, -, formed⟩ := (mem_checks_iff guarded).mp asked
  obtain ⟨-, -, accepted, rfl⟩ := formQuery_eq_ok_iff.mp formed
  exact named.splitsInto accepted

/-- No object is mistaken for another one. An accepted object falls, at its only
colon, into the two segments of the path that names it, so paths with the same
accepted object name it by the same segments; and whatever the segments are, the
backend is asked about them or not at all. -/
theorem objects_unconfused (boundary : Boundary State Store) :
    (∀ path kind id subject relation query,
      boundary.target.Names path kind id →
      RelationQuery.ofParts subject relation (boundary.target.object path) =
        .ok query →
      query.object = boundary.target.object path ∧
        SplitsInto query.object kind id) ∧
    (∀ first second kind id otherKind otherId subject relation query,
      boundary.target.Names first kind id →
      boundary.target.Names second otherKind otherId →
      RelationQuery.ofParts subject relation (boundary.target.object first) =
        .ok query →
      boundary.target.object first = boundary.target.object second →
      kind = otherKind ∧ id = otherId) ∧
    (∀ occasion request state store passage kind id,
      boundary.target.passage? boundary.scope request = some passage →
      boundary.target.Names passage.path kind id →
      ∀ query ∈ (boundary.account occasion request state store).checks,
        SplitsInto query.object kind id) := by
  refine ⟨?_, ?_, ?_⟩
  · intro path kind id subject relation query named formed
    obtain ⟨-, -, accepted, rfl⟩ := RelationQuery.ofParts_eq_ok_iff.mp formed
    exact ⟨rfl, named.splitsInto accepted⟩
  · intro first second kind id otherKind otherId subject relation query named
      alsoNamed formed same
    obtain ⟨-, -, accepted, -⟩ := RelationQuery.ofParts_eq_ok_iff.mp formed
    refine (named.splitsInto accepted).unique ?_
    rw [same, TargetRules.object_of_names alsoNamed, String.toList_ofList]
  · intro occasion request state store passage kind id guarded named query asked
    exact splitsInto_of_mem_checks guarded named asked

end Boundary

namespace Sample

/-- What two paths to an order are read as, and what the backend is asked about
the one that is requested. -/
theorem object_readings :
    Route.ofPath literalScope "/api" direct.target.path = .guarded ∧
      openBoundary.target.segments? direct.target.full =
        some ["orders".toList, "7".toList] ∧
      openBoundary.target.segments? "/api//orders/7/lines" =
        some ["orders".toList, "7".toList, "lines".toList] ∧
      openBoundary.target.object direct.target.full =
        openBoundary.target.object "/api//orders/7/lines" ∧
      (openBoundary.account ⟨"1", 1700000000⟩ direct () []).checks =
        [⟨"user:alice", "viewer", "orders:7"⟩] := by
  decide +kernel

end Sample

theorem objects_unconfused_of_sample :
    Sample.openBoundary.target.Names Sample.direct.target.full
        "orders".toList "7".toList ∧
      Sample.openBoundary.target.Names "/api//orders/7/lines"
        "orders".toList "7".toList ∧
      Sample.openBoundary.target.object Sample.direct.target.full =
        Sample.openBoundary.target.object "/api//orders/7/lines" ∧
      (Sample.openBoundary.account ⟨"1", 1700000000⟩ Sample.direct ()
        []).checks = [⟨"user:alice", "viewer", "orders:7"⟩] ∧
      SplitsInto "orders:7" "orders".toList "7".toList := by
  obtain ⟨route, short, long, same, asked⟩ := Sample.object_readings
  have named : Sample.openBoundary.target.Names Sample.direct.target.full
      "orders".toList "7".toList :=
    TargetRules.names_iff.mpr ⟨[], short⟩
  obtain ⟨-, -, checked⟩ := Boundary.objects_unconfused Sample.openBoundary
  refine ⟨named, TargetRules.names_iff.mpr ⟨_, long⟩, same, asked, ?_⟩
  refine checked ⟨"1", 1700000000⟩ Sample.direct () [] _ _ _
    (TargetRules.passage?_of_guarded route) named
    ⟨"user:alice", "viewer", "orders:7"⟩ ?_
  rw [asked]
  exact List.mem_singleton_self _

/-- Segments with colons can meet in one object, which no query accepts. -/
example :
    let rules := Sample.openBoundary.target
    rules.object "/api/a:b/c" = rules.object "/api/a/b:c" ∧
      objectFault? (rules.object "/api/a:b/c").toList ≠ none := by
  decide +kernel

end Gatekeeper
