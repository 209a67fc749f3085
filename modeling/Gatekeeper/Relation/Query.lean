import Gatekeeper.Identity.Identifier

/-!
# Relation queries

A query asks whether a subject stands in a relation to an object. Its parts
follow the grammar of relation tuples: a user, a relation name, and an object
with its type.
-/

namespace Gatekeeper

open Gatekeeper.Text

inductive PartFault where
  | subjectType
  | emptyRelation
  | relationTooLong
  | relationStart
  | relationCharacter
  | objectForm
  | emptyObjectType
  | objectTypeTooLong
  | objectTypeStart
  | objectTypeCharacter
  | identifier (fault : Identifier.Fault)
deriving DecidableEq, Repr

def PartFault.message : PartFault → String
  | subjectType => "subject must start with 'user:'"
  | emptyRelation => "empty relation"
  | relationTooLong => "relation too long"
  | relationStart => "relation must start with a lowercase letter"
  | relationCharacter =>
      "relation may only contain lowercase letters, digits and '_'"
  | objectForm => "object must be '<type>:<id>'"
  | emptyObjectType => "empty object type"
  | objectTypeTooLong => "object type too long"
  | objectTypeStart => "object type must start with a lowercase letter"
  | objectTypeCharacter =>
      "object type may only contain lowercase letters, digits, '_' and '-'"
  | identifier fault => fault.message

/-- The greatest length of a relation and of an object type in bytes. -/
def maxNameLength : Nat := 64

def subjectFault? (subject : List Char) : Option PartFault :=
  match stripLead? Identifier.userType subject with
  | none => some .subjectType
  | some id => (Identifier.fault? id).map .identifier

def isRelationCharacter (character : Char) : Bool :=
  isLowerAscii character || isDigitAscii character || character = '_'

def relationFault? (relation : List Char) : Option PartFault :=
  match relation with
  | [] => some .emptyRelation
  | first :: _ =>
      if maxNameLength < utf8Length relation then some .relationTooLong
      else if !isLowerAscii first then some .relationStart
      else if !relation.all isRelationCharacter then some .relationCharacter
      else none

def isTypeCharacter (character : Char) : Bool :=
  isRelationCharacter character || character = '-'

def typeFault? (objectType : List Char) : Option PartFault :=
  match objectType with
  | [] => some .emptyObjectType
  | first :: _ =>
      if maxNameLength < utf8Length objectType then some .objectTypeTooLong
      else if !isLowerAscii first then some .objectTypeStart
      else if !objectType.all isTypeCharacter then some .objectTypeCharacter
      else none

/-- The fault of an object, which is split at its first colon. -/
def objectFault? (object : List Char) : Option PartFault :=
  match splitFirst? ':' object with
  | none => some .objectForm
  | some (objectType, id) =>
      match typeFault? objectType with
      | some fault => some fault
      | none => (Identifier.fault? id).map .identifier

structure RelationQuery where
  subject : String
  relation : String
  object : String
deriving DecidableEq, Repr

inductive QueryFault where
  | subject (text : String) (fault : PartFault)
  | relation (text : String) (fault : PartFault)
  | object (text : String) (fault : PartFault)
deriving DecidableEq, Repr

def QueryFault.message : QueryFault → String
  | subject text fault => "invalid subject '" ++ text ++ "': " ++ fault.message
  | relation text fault =>
      "invalid relation '" ++ text ++ "': " ++ fault.message
  | object text fault => "invalid object '" ++ text ++ "': " ++ fault.message

/-- The query with three parts, when each follows the grammar. -/
def RelationQuery.ofParts (subject relation object : String) :
    Except QueryFault RelationQuery :=
  match subjectFault? subject.toList with
  | some fault => .error (.subject subject fault)
  | none =>
      match relationFault? relation.toList with
      | some fault => .error (.relation relation fault)
      | none =>
          match objectFault? object.toList with
          | some fault => .error (.object object fault)
          | none => .ok ⟨subject, relation, object⟩

end Gatekeeper
