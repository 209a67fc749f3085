import Gatekeeper.Text.Alphanumeric
import Gatekeeper.Text.Blank

/-!
# Shell expansion

Variables of the process environment and the home directory in the text of an
option. A variable is written `$NAME` or `${NAME}`, the latter perhaps with a
default behind `:-`; two dollar signs stand for one. A variable that is not set
and has no default is an error.
-/

namespace Gatekeeper.Config

open Gatekeeper.Text

/-- The variables of a process, and the home directory that the system has on
record for its user. -/
structure Variables where
  entries : List (String × String)
  recordedHome : Option String
deriving Repr

namespace Variables

/-- The value of a variable. No variable has an empty name or one with an equals
sign. -/
def get? (assignments : Variables) (name : String) : Option String :=
  if name.isEmpty || name.toList.contains '=' then none
  else assignments.entries.lookup name

/-- The home directory: the recorded one where the variable is empty or not
set. -/
def home? (assignments : Variables) : Option String :=
  ((assignments.get? "HOME").filter fun home => !home.isEmpty).or
    assignments.recordedHome

end Variables

def isNameCharacter (character : Char) : Bool :=
  character = '_' || isAlphanumeric character

def splitDefault? : List Char → Option (List Char × List Char)
  | ':' :: '-' :: rest => some ([], rest)
  | character :: rest =>
      (splitDefault? rest).map fun (name, value) => (character :: name, value)
  | [] => none

/-- The value of the text between braces, or the name of the variable that it
lacks. A default needs a name in front of it, and is taken as it stands. -/
def braceValue (assignments : Variables) (inside : List Char) :
    Except String (List Char) :=
  let whole := String.ofList inside
  match splitDefault? inside with
  | none | some ([], _) =>
      match assignments.get? whole with
      | some value => .ok value.toList
      | none => .error whole
  | some (name, value) =>
      match assignments.get? (String.ofList name) with
      | some set => .ok set.toList
      | none => .ok value

/-- A text with its variables replaced, or the name of the first one that is
missing. -/
def expandVariables (assignments : Variables) :
    List Char → Except String (List Char)
  | [] => .ok []
  | '$' :: '\x7b' :: rest =>
      match _found : splitFirst? '\x7d' rest with
      | none =>
          (expandVariables assignments rest).map fun tail =>
            '$' :: '\x7b' :: tail
      | some (inside, after) =>
          match braceValue assignments inside with
          | .error name => .error name
          | .ok value => (expandVariables assignments after).map (value ++ ·)
  | '$' :: '$' :: rest => (expandVariables assignments rest).map ('$' :: ·)
  | '$' :: character :: rest =>
      if isNameCharacter character then
        let name := String.ofList (character :: rest.takeWhile isNameCharacter)
        match assignments.get? name with
        | none => .error name
        | some value =>
            (expandVariables assignments (rest.dropWhile isNameCharacter)).map
              (value.toList ++ ·)
      else
        (expandVariables assignments (character :: rest)).map ('$' :: ·)
  | character :: rest => (expandVariables assignments rest).map (character :: ·)
termination_by text => text.length
decreasing_by
  all_goals simp only [List.length_cons]
  · omega
  · have := splitFirst?_length ‹_›
    omega
  · omega
  · have := (List.dropWhile_sublist (l := rest) isNameCharacter).length_le
    omega
  · omega
  · omega

/-- A text with the home directory in place of a tilde that stands alone or
before a slash. -/
def expandHome (assignments : Variables) (text : List Char) : List Char :=
  match text, assignments.home? with
  | ['~'], some home => home.toList
  | '~' :: '/' :: rest, some home => home.toList ++ '/' :: rest
  | _, _ => text

/-- The expansion of the text of an option. Where variables were replaced, the
tilde counts only if the text as written starts with it. -/
def expand (assignments : Variables) (text : String) : Except String String :=
  let written := text.toList
  if written.contains '$' then
    (expandVariables assignments written).map fun expanded =>
      String.ofList
        (if written.head? = some '~' then expandHome assignments expanded
         else expanded)
  else
    .ok (String.ofList (expandHome assignments written))

end Gatekeeper.Config
