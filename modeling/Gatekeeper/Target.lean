import Gatekeeper.Text.Blank

/-!
# Targets of requests

A request needs a relation to an object. The method decides the relation. A path
below the prefix names the object by its first two segments, and any other path
stands for the default object.
-/

namespace Gatekeeper

open Gatekeeper.Text

/-- How methods and paths become targets. -/
structure TargetRules where
  pathPrefix : String
  defaultObject : String
  readRelation : String
  writeRelation : String
  deleteRelation : String
deriving DecidableEq, Repr

structure Target where
  relation : String
  object : String
deriving DecidableEq, Repr

namespace TargetRules

/-- The relation that a method needs. Other methods get an empty one, which no
query accepts. -/
def relation (rules : TargetRules) (method : String) : String :=
  match method with
  | "GET" | "HEAD" | "OPTIONS" => rules.readRelation
  | "POST" | "PUT" | "PATCH" => rules.writeRelation
  | "DELETE" => rules.deleteRelation
  | _ => ""

def barePath (path : List Char) : List Char :=
  path.takeWhile fun character => character ≠ '?' && character ≠ '#'

/-- What a path has below the prefix, when it is the prefix or goes on with a
slash. -/
def below? (rules : TargetRules) (path : List Char) : Option (List Char) :=
  if rules.pathPrefix = "/" then
    some path
  else
    (stripLead? rules.pathPrefix.toList path).bind fun rest =>
      if rest.isEmpty || rest.head? = some '/' then some rest else none

def object (rules : TargetRules) (path : String) : String :=
  match (rules.below? (barePath path.toList)).map (words (· = '/')) with
  | some (kind :: id :: _) => String.ofList (kind ++ ':' :: id)
  | _ => rules.defaultObject

def resolve (rules : TargetRules) (method path : String) : Target :=
  ⟨rules.relation method, rules.object path⟩

end TargetRules

end Gatekeeper
