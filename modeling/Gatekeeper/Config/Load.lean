import Gatekeeper.Config.Server

/-!
# Loading a configuration

A configuration lies in a file of its name in the configuration directory. Where
there is no such file, every option takes its default. What the reader of TOML
says of a text that is no configuration is a parameter here.
-/

namespace Gatekeeper.Config

inductive LoadFault where
  | paths (fault : PathsFault)
  | unreadable (path : String) (error : FileError)
  | unparsable (explanation : String)
  | incomplete (fault : Fault)
deriving DecidableEq, Repr

def LoadFault.message : LoadFault → String
  | paths fault => fault.message
  | unreadable path error =>
      "read config file: " ++ path ++ ": " ++ error.message
  | unparsable explanation => "parse config toml: " ++ explanation
  | incomplete fault => "validate config: " ++ fault.message

/-- The section that a text writes at its top. -/
def parse? {α : Type} [Section α] (text : String) : Option α :=
  (Toml.read? text).bind fun members => sectionOf? (.table members)

/-- The section that a file writes, and whether there is such a file. -/
def readFile {α : Type} [Section α] (explain : String → String)
    (tree : FileTree) (path : String) : Except LoadFault (α × Bool) :=
  match tree.readText path with
  | .error .notFound => .ok (Section.absent, false)
  | .error error => .error (.unreadable path error)
  | .ok text =>
      match parse? text with
      | none => .error (.unparsable (explain text))
      | some config => .ok (config, true)

structure Loaded (α : Type) where
  config : α
  paths : Paths
  wasFound : Bool

def load {α : Type} [Section α] (explain : String → String)
    (surroundings : Surroundings) (name : String) (tree : FileTree) :
    Except LoadFault (Loaded α) × FileTree :=
  match preparePaths surroundings tree with
  | (.error fault, tree) => (.error (.paths fault), tree)
  | (.ok paths, tree) =>
      let result := do
        let (written, wasFound) ←
          readFile explain tree (PathText.join paths.config (name ++ ".toml"))
        let config ←
          (Section.complete ⟨surroundings.assignments, paths⟩ written).mapError
            .incomplete
        .ok ⟨config, paths, wasFound⟩
      (result, tree)

end Gatekeeper.Config
