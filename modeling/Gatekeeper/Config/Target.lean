import Gatekeeper.Config.Section
import Gatekeeper.Target

/-!
# Targets
-/

namespace Gatekeeper

open Gatekeeper.Text

namespace TargetRules

/-- The prefix without the slashes at its end; a single slash when nothing else
is left. -/
def trimPrefix (written : String) : String :=
  let trimmed := dropTrailing (· = '/') written.toList
  if trimmed.isEmpty then "/" else String.ofList trimmed

open Config in
/-- Refuse a relation that no query accepts. -/
def checkRelation (name relation : String) : Except Fault Unit :=
  match relationFault? relation.toList with
  | some fault => .error (.relation name relation fault)
  | none => .ok ()

open Config in
def complete (context : Context) (rules : TargetRules) :
    Except Fault TargetRules := do
  let expanded ← context.expand "target.prefix" rules.pathPrefix
  if expanded.toList.head? ≠ some '/' then
    throw .prefixStart
  match objectFault? rules.defaultObject.toList with
  | some fault => throw (.defaultObject rules.defaultObject fault)
  | none => pure ()
  checkRelation "read_relation" rules.readRelation
  checkRelation "write_relation" rules.writeRelation
  checkRelation "delete_relation" rules.deleteRelation
  .ok { rules with pathPrefix := trimPrefix expanded }

def standard : TargetRules :=
  ⟨"/api", "service:authgate", "viewer", "editor", "owner"⟩

end TargetRules

namespace Config

instance : Section TargetRules where
  names :=
    ["prefix", "default_object", "read_relation", "write_relation",
      "delete_relation"]
  absent := .standard
  ofMembers? members := do
    let text := Toml.Value.text?
    let pathPrefix ←
      option? text "prefix" TargetRules.standard.pathPrefix members
    let defaultObject ←
      option? text "default_object" TargetRules.standard.defaultObject members
    let readRelation ←
      option? text "read_relation" TargetRules.standard.readRelation members
    let writeRelation ←
      option? text "write_relation" TargetRules.standard.writeRelation members
    let deleteRelation ←
      option? text "delete_relation" TargetRules.standard.deleteRelation members
    some ⟨pathPrefix, defaultObject, readRelation, writeRelation,
      deleteRelation⟩
  complete := TargetRules.complete
  toJson rules :=
    .object [("prefix", .string rules.pathPrefix),
      ("default_object", .string rules.defaultObject),
      ("read_relation", .string rules.readRelation),
      ("write_relation", .string rules.writeRelation),
      ("delete_relation", .string rules.deleteRelation)]

end Config

end Gatekeeper
