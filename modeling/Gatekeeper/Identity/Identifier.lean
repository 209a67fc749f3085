import Gatekeeper.Text.Blank

/-!
# Identifiers

An identifier names a user or an object within its type. It takes 1 to 256 bytes
and holds no blank, no control character and neither of the two separators of
relation tuples. The canonical id of a user is the identifier behind the type
`user`; a name that already carries the type is the same user.
-/

namespace Gatekeeper.Identifier

open Gatekeeper.Text

inductive Fault where
  | empty
  | tooLong
  | blank
  | control
  | typeSeparator
  | relationSeparator
deriving DecidableEq, Repr

def Fault.message : Fault → String
  | empty => "empty identifier"
  | tooLong => "identifier too long"
  | blank => "whitespace is not allowed"
  | control => "control characters are not allowed"
  | typeSeparator => "':' is reserved as the type separator"
  | relationSeparator => "'#' is reserved as the relation separator"

/-- The greatest length in bytes. -/
def maxLength : Nat := 256

def characterFault? (character : Char) : Option Fault :=
  if isBlank character then some .blank
  else if isControl character then some .control
  else if character = ':' then some .typeSeparator
  else if character = '#' then some .relationSeparator
  else none

/-- The first fault of a text: its length before its characters, and those in
order. -/
def fault? (characters : List Char) : Option Fault :=
  if characters.isEmpty then some .empty
  else if maxLength < utf8Length characters then some .tooLong
  else characters.findSome? characterFault?

structure Invalid where
  identifier : String
  fault : Fault
deriving DecidableEq, Repr

def Invalid.message (invalid : Invalid) : String :=
  "invalid identifier '" ++ invalid.identifier ++ "': " ++ invalid.fault.message

/-- The type of users with its separator. -/
def userType : List Char := ['u', 's', 'e', 'r', ':']

/-- A name without its type, when it carries the type of users. Only one is
taken off. -/
def withoutUserType (name : List Char) : List Char :=
  (stripLead? userType name).getD name

def canonical (name : String) : Except Invalid String :=
  let bare := withoutUserType name.toList
  match fault? bare with
  | some fault => .error ⟨name, fault⟩
  | none => .ok (String.ofList (userType ++ bare))

end Gatekeeper.Identifier
