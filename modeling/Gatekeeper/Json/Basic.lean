import Gatekeeper.Number.Double

/-!
# JSON values

A value is what a JSON text means. Numbers keep the distinction between whole
numbers, which are exact, and doubles. The members of an object that was read
are in the order of their names, each name once; an object that is built for
writing keeps the order it was built in.
-/

namespace Gatekeeper

open Gatekeeper.Number

inductive JsonNumber where
  | natural (value : Nat)
  | negative (magnitude : Nat)
  | double (value : Double)
deriving DecidableEq, Repr

inductive Json where
  | null
  | boolean (value : Bool)
  | number (value : JsonNumber)
  | string (value : String)
  | array (items : List Json)
  | object (members : List (String × Json))
deriving Repr, Inhabited

namespace Json

abbrev Members := List (String × Json)

namespace Members

def get? (members : Members) (name : String) : Option Json :=
  members.lookup name

/-- Put a member in its place, over one of the same name. -/
def insert (name : String) (value : Json) : Members → Members
  | [] => [(name, value)]
  | (other, present) :: rest =>
      if name = other then (name, value) :: rest
      else if name < other then (name, value) :: (other, present) :: rest
      else (other, present) :: insert name value rest

def erase (members : Members) (name : String) : Members :=
  members.filter fun member => member.1 ≠ name

end Members

def nat (value : Nat) : Json := .number (.natural value)

def optional (value : Option String) : Json :=
  match value with
  | none => .null
  | some text => .string text

def text? : Json → Option String
  | .string text => some text
  | _ => none

def boolean? : Json → Option Bool
  | .boolean value => some value
  | _ => none

def natural? : Json → Option Nat
  | .number (.natural value) => some value
  | _ => none

def items? : Json → Option (List Json)
  | .array items => some items
  | _ => none

def members? : Json → Option Members
  | .object members => some members
  | _ => none

def get? (json : Json) (name : String) : Option Json :=
  json.members?.bind fun members => members.get? name

end Json

end Gatekeeper
