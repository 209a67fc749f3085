import Gatekeeper.Text.Blank
import Gatekeeper.Text.Utf8

/-!
# File trees

A tree of directories and files with a working directory, and the operations
that configuration and the audit trail need: making directories, reading a file,
and appending to one. Files hold bytes, which need not be a text. Errors are
those of the operating system.
-/

namespace Gatekeeper

open Gatekeeper.Text

inductive FileError where
  | notFound
  | alreadyExists
  | notDirectory
  | isDirectory
  | nameTooLong
  /-- The path holds a character that no path holds. -/
  | invalidName
  | notText
deriving DecidableEq, Repr

def FileError.message : FileError → String
  | notFound => "No such file or directory (os error 2)"
  | alreadyExists => "File exists (os error 17)"
  | notDirectory => "Not a directory (os error 20)"
  | isDirectory => "Is a directory (os error 21)"
  | nameTooLong => "File name too long (os error 36)"
  | invalidName => "file name contained an unexpected NUL byte"
  | notText => "stream did not contain valid UTF-8"

/-! ### Path texts -/

namespace PathText

/-- A path with another one behind it. An absolute path stands for itself, and
no slash is added where there is one or where there is nothing in front. -/
def join (path name : String) : String :=
  if name.startsWith "/" || path.isEmpty then name
  else if path.endsWith "/" then path ++ name
  else path ++ "/" ++ name

def isAbsolute (path : String) : Bool :=
  path.startsWith "/"

def names (path : String) : List String :=
  ((words (· = '/') path.toList).map String.ofList)

/-- The greatest length of a path and of a name along it in bytes. -/
def maxLength : Nat := 4095

def maxNameLength : Nat := 255

def fault? (path : String) : Option FileError :=
  if path.toList.contains (Char.ofNat 0) then some .invalidName
  else if maxLength < utf8Length path.toList then some .nameTooLong
  else none

end PathText

inductive FileEntry where
  | directory
  | content (bytes : List UInt8)
deriving DecidableEq, Repr

/-- A file that holds a text. -/
def FileEntry.file (text : String) : FileEntry :=
  .content (Utf8.encode text)

/-- The entries of a tree by the names along their absolute paths. The root is
always there. -/
structure FileTree where
  working : List String
  entries : List (List String × FileEntry)
deriving Repr

namespace FileTree

/-- The tree that holds nothing but its working directory. -/
def empty : FileTree where
  working := ["work"]
  entries := [(["work"], .directory)]

def entry? (tree : FileTree) (location : List String) : Option FileEntry :=
  if location.isEmpty then some .directory else tree.entries.lookup location

def put (tree : FileTree) (location : List String) (entry : FileEntry) :
    FileTree :=
  { tree with
    entries :=
      (location, entry) :: tree.entries.filter fun other => other.1 ≠ location }

/-- Follow names from a location. Every place that a name is looked up in has to
be a directory; the last name need not exist. -/
def walk (tree : FileTree) :
    List String → List String → Except FileError (List String)
  | location, [] => .ok location
  | location, name :: names =>
      match tree.entry? location with
      | none => .error .notFound
      | some (.content _) => .error .notDirectory
      | some .directory =>
          if PathText.maxNameLength < utf8Length name.toList then
            .error .nameTooLong
          else if name = "." then tree.walk location names
          else if name = ".." then tree.walk location.dropLast names
          else tree.walk (location ++ [name]) names

/-- Where paths start from. -/
def base (tree : FileTree) (isAbsolute : Bool) : List String :=
  if isAbsolute then [] else tree.working

/-- The location of a path. A slash at its end asks for a directory. -/
def locate (tree : FileTree) (path : String) : Except FileError (List String) :=
  match PathText.fault? path with
  | some error => .error error
  | none =>
    if path.isEmpty then
      .error .notFound
    else
      let names := PathText.names path
      tree.walk (tree.base (PathText.isAbsolute path))
        (if path.endsWith "/" then names ++ ["."] else names)

def find (tree : FileTree) (path : String) : Except FileError FileEntry :=
  match tree.locate path with
  | .error error => .error error
  | .ok location =>
      match tree.entry? location with
      | none => .error .notFound
      | some entry => .ok entry

def pathExists (tree : FileTree) (path : String) : Bool :=
  match tree.find path with
  | .ok _ => true
  | .error _ => false

def read (tree : FileTree) (path : String) : Except FileError (List UInt8) :=
  match tree.find path with
  | .error error => .error error
  | .ok .directory => .error .isDirectory
  | .ok (.content bytes) => .ok bytes

def readText (tree : FileTree) (path : String) : Except FileError String :=
  match tree.read path with
  | .error error => .error error
  | .ok bytes =>
      match Utf8.decode? bytes with
      | none => .error .notText
      | some text => .ok text

/-- Make sure that a file is there to append to, empty if it is new, and give
its location. -/
def openToAppend (tree : FileTree) (path : String) :
    Except FileError (List String × FileTree) :=
  match tree.locate path with
  | .error error => .error error
  | .ok location =>
      match tree.entry? location with
      | some .directory => .error .isDirectory
      | some (.content _) => .ok (location, tree)
      | none =>
          match tree.entry? location.dropLast with
          | some .directory => .ok (location, tree.put location (.content []))
          | some (.content _) => .error .notDirectory
          | none => .error .notFound

/-- What the file at a location holds. -/
def bytesAt (tree : FileTree) (location : List String) : List UInt8 :=
  match tree.entry? location with
  | some (.content bytes) => bytes
  | _ => []

def textAt (tree : FileTree) (location : List String) : String :=
  Utf8.decodeLossy (tree.bytesAt location)

/-- Make one directory in a directory that is there. -/
def makeDirectory (tree : FileTree) (isAbsolute : Bool) (names : List String) :
    Except FileError FileTree :=
  match tree.walk (tree.base isAbsolute) names with
  | .error error => .error error
  | .ok location =>
      match tree.entry? location with
      | some _ => .error .alreadyExists
      | none =>
          match tree.entry? location.dropLast with
          | some .directory => .ok (tree.put location .directory)
          | some (.content _) => .error .notDirectory
          | none => .error .notFound

def isDirectory (tree : FileTree) (isAbsolute : Bool) (names : List String) :
    Bool :=
  match tree.walk (tree.base isAbsolute) names with
  | .error _ => false
  | .ok location => tree.entry? location = some .directory

/-- The names of a path without the dots behind its first name, which stand for
nothing. -/
def components (isAbsolute : Bool) (names : List String) : List String :=
  match names with
  | [] => []
  | first :: rest =>
      let rest := rest.filter (· ≠ ".")
      if isAbsolute ∧ first = "." then rest else first :: rest

/-- Make the directory with the names as written, and those above it, which are
given by the components of the path in reverse. What was made stays there when a
later step fails. -/
def makeDirectories (isAbsolute : Bool) (written : List String) :
    List String → FileTree → Option FileError × FileTree
  | [], tree => (none, tree)
  | _ :: above, tree =>
      match tree.makeDirectory isAbsolute written with
      | .ok made => (none, made)
      | .error .notFound =>
          match makeDirectories isAbsolute above.reverse above tree with
          | (some error, tree) => (some error, tree)
          | (none, tree) =>
              match tree.makeDirectory isAbsolute written with
              | .ok made => (none, made)
              | .error error =>
                  (if tree.isDirectory isAbsolute written then none
                   else some error, tree)
      | .error error =>
          (if tree.isDirectory isAbsolute written then none
           else some error, tree)

/-- Make a directory at a path where there is nothing yet. -/
def ensureDirectory (tree : FileTree) (path : String) :
    Option FileError × FileTree :=
  if tree.pathExists path then
    (none, tree)
  else if let some error := PathText.fault? path then
    (some error, tree)
  else
    let isAbsolute := PathText.isAbsolute path
    let names := PathText.names path
    makeDirectories isAbsolute names (components isAbsolute names).reverse tree

/-- The paths below the working directory; those of directories end in a
slash. -/
def listing (tree : FileTree) : List String :=
  (tree.entries.filterMap fun (location, entry) =>
    if tree.working.isPrefixOf location && tree.working ≠ location then
      let path := "/".intercalate (location.drop tree.working.length)
      some (if entry = .directory then path ++ "/" else path)
    else
      none).mergeSort

end FileTree

end Gatekeeper
