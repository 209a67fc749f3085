import Gatekeeper.Config.Fault
import Gatekeeper.Config.Paths
import Gatekeeper.Json.Basic
import Gatekeeper.Toml.Reader

/-!
# Sections

A section is read from the members of a table; an option that is not there takes
its default. It is then completed: its texts are expanded, and what the service
relies on is checked.
-/

namespace Gatekeeper.Config

structure Context where
  assignments : Variables
  paths : Paths
deriving Repr

def Context.expand (context : Context) (option text : String) :
    Except Fault String :=
  expandOption context.assignments option text

/-- The expansion of a path, or the path that stands in when nothing is left of
it. -/
def Context.expandPath (context : Context) (option text fallback : String) :
    Except Fault String :=
  (context.expand option text).map fun expanded =>
    if expanded.isEmpty then fallback else expanded

def option? {α : Type} (read : Toml.Value → Option α) (name : String)
    (absent : α) (members : List (String × Toml.Value)) : Option α :=
  match members.lookup name with
  | none => some absent
  | some value => read value

/-- A kind of section, by its options in order. -/
class Section (α : Type) where
  names : List String
  absent : α
  ofMembers? : List (String × Toml.Value) → Option α
  complete : Context → α → Except Fault α
  toJson : α → Json

def sectionOf? {α : Type} [Section α] (value : Toml.Value) : Option α :=
  (value.parts? (Section.names α)).bind Section.ofMembers?

/-- An empty text as the absence of one. -/
def present? (text : String) : Option String :=
  if text.isEmpty then none else some text

/-- Refuse a duration of zero. -/
def requirePositive (option : String) (seconds : Nat) : Except Fault Unit :=
  if seconds = 0 then .error (.zeroDuration option) else .ok ()

end Gatekeeper.Config
