import Gatekeeper.Config.Expansion
import Gatekeeper.FileTree

/-!
# Directories of an installation

Where the configuration, the data and the keys of an installation lie. The
command line decides, then the process environment, then who runs the program.
-/

namespace Gatekeeper.Config

structure Paths where
  config : String
  data : String
deriving DecidableEq, Repr

namespace Paths

/-- The directory of keys and certificates. -/
def keys (paths : Paths) : String :=
  PathText.join paths.config "pki"

end Paths

/-- What the choice of directories depends on. -/
structure Surroundings where
  assignments : Variables
  isRoot : Bool
  configDirectory : Option String
  dataDirectory : Option String
deriving Repr

namespace Surroundings

def home? (surroundings : Surroundings) : Option String :=
  (surroundings.assignments.get? "HOME").or
    (surroundings.assignments.get? "USERPROFILE")

/-- One directory: as given, from a variable, the one of the system for its
administrator, or below the home directory. -/
def directory? (surroundings : Surroundings) (given : Option String)
    (key system : String) (belowHome : List String) : Option String :=
  match given with
  | some path => some path
  | none =>
      match surroundings.assignments.get? key with
      | some path => some path
      | none =>
          if surroundings.isRoot then some system
          else surroundings.home?.map fun home =>
            belowHome.foldl PathText.join home

/-- The directories of the installation; none without a home directory that they
need. -/
def paths? (surroundings : Surroundings) : Option Paths :=
  match surroundings.directory? surroundings.configDirectory
    "AUTHGATE_CONFIG_DIR"
      "/etc/authgate" [".config", "authgate"] with
  | none => none
  | some config =>
      (surroundings.directory? surroundings.dataDirectory "AUTHGATE_DATA_DIR"
        "/var/lib/authgate" [".local", "share", "authgate"]).map fun data =>
          ⟨config, data⟩

end Surroundings

inductive PathsFault where
  | noHome
  | configDirectory (path : String) (error : FileError)
  | dataDirectory (path : String) (error : FileError)
deriving DecidableEq, Repr

def PathsFault.message : PathsFault → String
  | noHome =>
      "could not determine home directory, please specify config path manually"
  | configDirectory path error =>
      "ensure config directory: " ++ path ++ ": " ++ error.message
  | dataDirectory path error =>
      "ensure data directory: " ++ path ++ ": " ++ error.message

/-- Choose the directories and make those that are missing. -/
def preparePaths (surroundings : Surroundings) (tree : FileTree) :
    Except PathsFault Paths × FileTree :=
  match surroundings.paths? with
  | none => (.error .noHome, tree)
  | some paths =>
      match tree.ensureDirectory paths.config with
      | (some error, tree) =>
          (.error (.configDirectory paths.config error), tree)
      | (none, tree) =>
          match tree.ensureDirectory paths.data with
          | (some error, tree) =>
              (.error (.dataDirectory paths.data error), tree)
          | (none, tree) => (.ok paths, tree)

end Gatekeeper.Config
