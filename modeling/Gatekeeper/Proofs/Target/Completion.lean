import Gatekeeper.Config.Target
import Gatekeeper.Proofs.Relation.Grammar
import Gatekeeper.Proofs.Target.Segments

/-!
# Completed rules

What rules for targets satisfy once they are completed. The prefix starts with a
slash and ends in one only when it is nothing else, and what the rules can ask
for without a path follows the grammar of queries.
-/

namespace Gatekeeper

open Gatekeeper.Text

/-! ### Sequenced checks -/

namespace Config

variable {Failure α β : Type}

theorem bind_eq_ok_iff {first : Except Failure α}
    {next : α → Except Failure β} {result : β} :
    (first >>= next) = .ok result ↔
      ∃ value, first = .ok value ∧ next value = .ok result := by
  cases first <;> simp [bind, Except.bind]

theorem throw_ne_ok (failure : Failure) (result : α) :
    (throw failure : Except Failure α) ≠ .ok result := by
  simp [throw, throwThe, MonadExceptOf.throw]

end Config

namespace TargetRules

/-! ### Completion -/

/-- What the completion of rules establishes. -/
structure IsCompleted (rules : TargetRules) : Prop where
  rooted : rules.pathPrefix.toList.head? = some '/'
  trimmed :
    rules.pathPrefix = "/" ∨ rules.pathPrefix.toList.getLast? ≠ some '/'
  object : IsObject rules.defaultObject.toList
  read : IsName isRelationCharacter rules.readRelation.toList
  write : IsName isRelationCharacter rules.writeRelation.toList
  delete : IsName isRelationCharacter rules.deleteRelation.toList

theorem trimPrefix_trimmed (written : String) :
    trimPrefix written = "/" ∨
      (trimPrefix written).toList.getLast? ≠ some '/' := by
  cases left : written.toList.reverse.dropWhile (· = '/') with
  | nil => simp [trimPrefix, dropTrailing, left]
  | cons last others =>
      have unslashed := of_dropWhile_eq_cons left
      refine .inr ?_
      simpa [trimPrefix, dropTrailing, left] using unslashed

theorem trimPrefix_rooted {written : String}
    (rooted : written.toList.head? = some '/') :
    (trimPrefix written).toList.head? = some '/' := by
  cases trimmed : dropTrailing (· = '/') written.toList with
  | nil => simp [trimPrefix, trimmed]
  | cons first rest =>
      have kept := dropTrailing_append_reverse (· = '/') written.toList
      rw [trimmed, List.cons_append] at kept
      rw [← kept, List.head?_cons] at rooted
      simpa [trimPrefix, trimmed] using rooted

theorem checkRelation_eq_ok {name relation : String}
    (checked : checkRelation name relation = .ok ()) :
    IsName isRelationCharacter relation.toList := by
  unfold checkRelation at checked
  cases fault : relationFault? relation.toList with
  | some fault => simp [fault] at checked
  | none => exact relationFault?_eq_none_iff.mp fault

theorem isCompleted_of_complete {context : Config.Context}
    {written rules : TargetRules}
    (completed : complete context written = .ok rules) : rules.IsCompleted := by
  unfold complete at completed
  obtain ⟨expanded, -, completed⟩ := Config.bind_eq_ok_iff.mp completed
  by_cases rooted : expanded.toList.head? = some '/'
  · rw [if_neg (not_not_intro rooted)] at completed
    cases object : objectFault? written.defaultObject.toList with
    | some fault =>
        simp [object, Config.bind_eq_ok_iff, Config.throw_ne_ok] at completed
    | none =>
        simp only [object, Config.bind_eq_ok_iff] at completed
        obtain ⟨⟨⟩, read, ⟨⟩, write, ⟨⟩, delete, made⟩ := completed
        obtain rfl := Except.ok.inj made
        exact ⟨trimPrefix_rooted rooted, trimPrefix_trimmed expanded,
          objectFault?_eq_none_iff.mp object, checkRelation_eq_ok read,
          checkRelation_eq_ok write, checkRelation_eq_ok delete⟩
  · simp [rooted, Config.bind_eq_ok_iff, Config.throw_ne_ok] at completed

/-! ### Relations of methods -/

/-- The methods that need a relation which a query can ask for. -/
def knownMethods : List String :=
  ["GET", "HEAD", "OPTIONS", "POST", "PUT", "PATCH", "DELETE"]

variable {rules : TargetRules} {method : String}

theorem relation_of_unknown (unknown : method ∉ knownMethods) :
    rules.relation method = "" := by
  simp only [knownMethods, List.mem_cons, List.not_mem_nil, or_false,
    not_or] at unknown
  unfold relation
  split <;> simp_all

/-- A method needs one of the three relations, and after completion each of
them is one that a query can ask for. -/
theorem IsCompleted.isName_relation (completed : rules.IsCompleted)
    (known : method ∈ knownMethods) :
    IsName isRelationCharacter (rules.relation method).toList := by
  simp only [knownMethods, List.mem_cons, List.not_mem_nil, or_false] at known
  rcases known with rfl | rfl | rfl | rfl | rfl | rfl | rfl
  · exact completed.read
  · exact completed.read
  · exact completed.read
  · exact completed.write
  · exact completed.write
  · exact completed.write
  · exact completed.delete

/-- No query can ask for the relation of any other method. -/
theorem not_isName_relation (unknown : method ∉ knownMethods) :
    ¬ IsName isRelationCharacter (rules.relation method).toList := by
  intro name
  obtain ⟨first, rest, isCons, -⟩ := name.start
  rw [relation_of_unknown unknown] at isCons
  cases isCons

end TargetRules

end Gatekeeper
