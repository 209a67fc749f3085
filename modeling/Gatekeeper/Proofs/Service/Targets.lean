import Gatekeeper.Proofs.Decision.Coherence
import Gatekeeper.Proofs.Service.Objects
import Gatekeeper.Proofs.Target.Variants

/-!
# Targets of requests

Which relation to which object a request needs, by its method and its path. The
rules are completed ones, so what they put forward without a path is never
refused as a target.
-/

namespace Gatekeeper

open Gatekeeper.Http
open Gatekeeper.Text

/-! ### Paths and methods -/

namespace TargetRules

variable {rules : TargetRules}

/-- How rules read paths. -/
structure ReadsPaths (rules : TargetRules) : Prop where
  named : ∀ path kind id, rules.Names path kind id →
    rules.object path = String.ofList (kind ++ ':' :: id)
  nameless : ∀ path, (¬ ∃ kind id, rules.Names path kind id) →
    rules.object path = rules.defaultObject
  unique : ∀ path kind id otherKind otherId, rules.Names path kind id →
    rules.Names path otherKind otherId → kind = otherKind ∧ id = otherId
  /-- No other path has the object that a path names, unless it is the default
  one or its parts hold colons. -/
  exact : ∀ path kind id, ':' ∉ kind → ':' ∉ id →
    String.ofList (kind ++ ':' :: id) ≠ rules.defaultObject →
      (rules.object path = String.ofList (kind ++ ':' :: id) ↔
        rules.Names path kind id)
  /-- A query and a fragment do not count. -/
  cut : ∀ path cut, StartsCut cut →
    rules.object (path ++ cut) = rules.object path
  /-- Nor does a second slash next to a slash behind the prefix. -/
  doubledSlash : ∀ before after,
    rules.object (rules.lead ++ before ++ "//" ++ after) =
      rules.object (rules.lead ++ before ++ "/" ++ after)
  trailingSlash : ∀ path, rules.object (path ++ "/") = rules.object path
  further : ∀ path kind id more, rules.Names path kind id →
    rules.object (path ++ "/" ++ more) = rules.object path
  /-- A path that goes on from the prefix without a slash is not below it. -/
  longer : rules.pathPrefix ≠ "/" →
    ∀ character rest, character ≠ '/' → character ≠ '?' → character ≠ '#' →
      rules.object (rules.pathPrefix ++ String.ofList (character :: rest)) =
        rules.defaultObject

theorem IsCompleted.readsPaths (completed : rules.IsCompleted) :
    rules.ReadsPaths where
  named _ _ _ := object_of_names
  nameless _ := object_of_nameless
  unique _ _ _ _ _ := Names.unique
  exact _ _ _ := object_eq_iff_names
  cut path _ := object_append_cut rules path
  doubledSlash := object_doubled_slash rules
  trailingSlash := completed.object_append_slash
  further path kind id more named := by
    rw [object_of_names named, object_of_names (named.append_segments more)]
  longer unrooted _ rest unslashed unqueried unmarked :=
    object_of_longer_segment unrooted unslashed ⟨unqueried, unmarked⟩ rest

/-- Which relations the methods need. -/
structure ReadsMethods (rules : TargetRules) : Prop where
  read : ∀ method ∈ ["GET", "HEAD", "OPTIONS"],
    rules.relation method = rules.readRelation
  write : ∀ method ∈ ["POST", "PUT", "PATCH"],
    rules.relation method = rules.writeRelation
  delete : rules.relation "DELETE" = rules.deleteRelation
  /-- A query never fails for the relation of a known method. -/
  valid : ∀ method ∈ knownMethods,
    relationFault? (rules.relation method).toList = none

theorem IsCompleted.readsMethods (completed : rules.IsCompleted) :
    rules.ReadsMethods where
  read method member := by
    simp only [List.mem_cons, List.not_mem_nil, or_false] at member
    rcases member with rfl | rfl | rfl <;> rfl
  write method member := by
    simp only [List.mem_cons, List.not_mem_nil, or_false] at member
    rcases member with rfl | rfl | rfl <;> rfl
  delete := rfl
  valid method known :=
    relationFault?_eq_none_iff.mpr (completed.isName_relation known)

end TargetRules

/-! ### Requests -/

/-- A request is not denied for a target that follows the grammar. -/
theorem Collaborators.reason_ne_invalidTarget {State : Type}
    (collaborators : Collaborators State) (policy : FallbackPolicy)
    {request : AccessRequest} (state : State)
    (relation : IsName isRelationCharacter request.relation.toList)
    (object : IsObject request.object.toList) :
    ((collaborators.inquire request state).1.ending policy).reason ≠
      .invalidTarget := by
  unfold inquire
  cases request.credential with
  | missing => simp [Inquiry.ending, Ending.deniedAtStart]
  | malformed => simp [Inquiry.ending, Ending.deniedAtStart]
  | bearer token =>
      cases resolved :
          resolveCaller (collaborators.authenticate token state).1 with
      | error ending =>
          obtain ⟨reason, detail, rfl, early⟩ :=
            resolveCaller_eq_error resolved
          simp only [resolved, Inquiry.ending, Ending.deniedAtStart]
          rintro rfl
          exact absurd early (by decide)
      | ok principal =>
          have formed : formQuery principal request =
              .ok ⟨principal.canonicalId, request.relation, request.object⟩ :=
            formQuery_eq_ok_iff.mpr
              ⟨isUser_of_resolveCaller resolved, relation, object, rfl⟩
          simp only [resolved, formed, Inquiry.ending]
          intro invalid
          have given := Ending.reason_ofAnswer policy principal
            (collaborators.check
              ⟨principal.canonicalId, request.relation, request.object⟩
              (collaborators.authenticate token state).2).1
          rw [invalid] at given
          exact absurd given (by decide)

namespace Boundary

variable {State Store : Type} {boundary : Boundary State Store}
  {occasion : Occasion} {request : Request} {passage : Passage} {state : State}
  {store : Store}

/-- A known method and a path that names nothing make a target that a query
accepts: completion has checked the relations and the default object. -/
theorem reason_ne_invalidTarget_of_nameless
    (completed : boundary.target.IsCompleted)
    (guarded : boundary.target.passage? boundary.scope request = some passage)
    (known : passage.method ∈ TargetRules.knownMethods)
    (nameless : ¬ ∃ kind id, boundary.target.Names passage.path kind id)
    {record : DecisionRecord}
    (offered :
      record ∈ (boundary.account occasion request state store).offered) :
    record.reason ≠ .invalidTarget := by
  rw [account_of_passage guarded] at offered
  obtain rfl := List.mem_singleton.mp offered
  refine boundary.collaborators.reason_ne_invalidTarget boundary.policy state
    (completed.isName_relation known) ?_
  show IsObject (boundary.target.object passage.path).toList
  rw [TargetRules.object_of_nameless nameless]
  exact completed.object

/-- The target of every method and every path under completed rules. The path
names an object by its first two segments below the prefix, or stands for the
default object. A known method needs a configured relation, any other one turns
the request away, and without a name in the path the target is never at
fault. -/
theorem targets_of_completed {context : Config.Context} {written : TargetRules}
    (boundary : Boundary State Store)
    (completed : TargetRules.complete context written = .ok boundary.target) :
    boundary.target.ReadsPaths ∧
    boundary.target.ReadsMethods ∧
    (∀ occasion request state store passage,
      boundary.target.passage? boundary.scope request = some passage →
      passage.method ∉ TargetRules.knownMethods →
      boundary.TurnsAway occasion request state store) ∧
    (∀ occasion request state store passage,
      boundary.target.passage? boundary.scope request = some passage →
      passage.method ∈ TargetRules.knownMethods →
      (¬ ∃ kind id, boundary.target.Names passage.path kind id) →
      ∀ record ∈ (boundary.account occasion request state store).offered,
        record.reason ≠ .invalidTarget) := by
  have isCompleted := TargetRules.isCompleted_of_complete completed
  refine ⟨isCompleted.readsPaths, isCompleted.readsMethods, ?_, ?_⟩
  · intro occasion request state store passage guarded unknown
    rw [turnsAway_iff guarded]
    rintro ⟨token, claims, canonicalId, -, -, -, relation, -⟩
    exact TargetRules.not_isName_relation unknown relation
  · intro occasion request state store passage guarded known nameless record
      offered
    exact reason_ne_invalidTarget_of_nameless isCompleted guarded known nameless
      offered

end Boundary

/-! ### An order and a method in small letters

The prefix is written with slashes at its end. Alice asks for an order, by a
method that only looks like a known one.
-/

namespace Sample

def written : TargetRules :=
  { TargetRules.standard with pathPrefix := "/api//" }

def lowerCase : Request :=
  { direct with method := "get" }

theorem target_readings :
    TargetRules.complete ⟨⟨[], none⟩, ⟨"/etc", "/var"⟩⟩ written =
        .ok openBoundary.target ∧
      openBoundary.target.pathPrefix = "/api" ∧
      openBoundary.target.lead = "/api" ∧
      Route.ofPath literalScope "/api" lowerCase.target.path = .guarded ∧
      openBoundary.target.object "/api/orders/7" = "orders:7" := by
  decide +kernel

end Sample

theorem targets_of_completed_of_sample :
    TargetRules.complete ⟨⟨[], none⟩, ⟨"/etc", "/var"⟩⟩ Sample.written =
        .ok Sample.openBoundary.target ∧
      Sample.openBoundary.target.object
          ("/api" ++ "" ++ "//" ++ "orders/7") = "orders:7" ∧
      Sample.openBoundary.target.object ("/api" ++ "x/orders/7") =
        "service:authgate" ∧
      Sample.openBoundary.TurnsAway ⟨"1", 1700000000⟩ Sample.lowerCase ()
        [] := by
  obtain ⟨completed, isPrefix, isLead, route, object⟩ := Sample.target_readings
  obtain ⟨reads, -, unknown, -⟩ :=
    Boundary.targets_of_completed Sample.openBoundary completed
  have unrooted : Sample.openBoundary.target.pathPrefix ≠ "/" := by
    rw [isPrefix]
    decide
  refine ⟨completed, ?_, ?_, ?_⟩
  · have single := reads.doubledSlash "" "orders/7"
    rw [isLead] at single
    exact single.trans object
  · exact reads.longer unrooted 'x' "/orders/7".toList (by decide) (by decide)
      (by decide)
  · exact unknown ⟨"1", 1700000000⟩ Sample.lowerCase () [] _
      (TargetRules.passage?_of_guarded route) (by decide)

end Gatekeeper
