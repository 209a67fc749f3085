/-!
# TOML values and drafts

A value is what configuration is read from. Floats and moments keep no content,
since no option takes one. A draft is a table under construction: it remembers
how each of its tables came about, because that decides which of them may still
be extended.
-/

namespace Gatekeeper.Toml

inductive Value where
  | string (text : String)
  | integer (value : Int64)
  | float
  | boolean (value : Bool)
  | moment
  | array (items : List Value)
  | table (members : List (String × Value))
deriving Repr, Inhabited

/-- How a table came about: by its own header, on the way to another header, or
on the way to a dotted key. -/
inductive Origin where
  | header
  | implied
  | dotted
deriving DecidableEq, Repr

inductive Draft where
  | closed (value : Value)
  | table (origin : Origin) (members : List (String × Draft))
  | tables (items : List (List (String × Draft)))
deriving Repr, Inhabited

namespace Draft

abbrev Members := List (String × Draft)

/-- Put a member in the place of the one of its name, or at the end. -/
def put (key : String) (draft : Draft) : Members → Members
  | [] => [(key, draft)]
  | (other, present) :: rest =>
      if other = key then (key, draft) :: rest
      else (other, present) :: put key draft rest

/-- Change the table that keys lead to, making the tables on the way. With
`dotted` the keys are those of a dotted key, which does not enter tables that
have a header; the last table of an array of tables stands for the array. -/
def change (dotted : Bool) (edit : Origin → Members → Option Members) :
    List String → Origin → Members → Option Members
  | [], origin, members => edit origin members
  | key :: keys, _, members =>
      match members.lookup key with
      | none =>
          let origin := if dotted then Origin.dotted else .implied
          (change dotted edit keys origin []).map fun inner =>
            put key (.table origin inner) members
      | some (.closed _) => none
      | some (.table origin inner) =>
          if dotted && origin = .header then
            none
          else
            (change dotted edit keys origin inner).map fun inner =>
              put key (.table origin inner) members
      | some (.tables items) =>
          match items.getLast? with
          | none => none
          | some inner =>
              (change dotted edit keys .header inner).map fun inner =>
                put key (.tables (items.dropLast ++ [inner])) members

/-- Give a key its value. No key is given twice, and a dotted key extends only
tables that dotted keys made. -/
def define (keys : List String) (value : Value) (members : Members) :
    Option Members :=
  match keys.getLast? with
  | none => none
  | some key =>
      let above := keys.dropLast
      change true
        (fun origin inner =>
          if (!above.isEmpty && origin ≠ .dotted) ||
            (inner.lookup key).isSome then
            none
          else
            some (inner ++ [(key, .closed value)]))
        above .header members

/-- Open the table of a header. Only a table that was implied so far may be
there. -/
def openTable (keys : List String) (members : Members) : Option Members :=
  match keys.getLast? with
  | none => none
  | some key =>
      change false
        (fun _ inner =>
          match inner.lookup key with
          | none => some (inner ++ [(key, .table .header [])])
          | some (.table .implied present) =>
              some (put key (.table .header present) inner)
          | some _ => none)
        keys.dropLast .header members

/-- Open a further table of an array of tables. -/
def openItem (keys : List String) (members : Members) : Option Members :=
  match keys.getLast? with
  | none => none
  | some key =>
      change false
        (fun _ inner =>
          match inner.lookup key with
          | none => some (inner ++ [(key, .tables [[]])])
          | some (.tables items) =>
              some (put key (.tables (items ++ [[]])) inner)
          | some _ => none)
        keys.dropLast .header members

mutual

/-- The finished value of a draft. -/
def finish : Draft → Value
  | .closed value => value
  | .table _ members => .table (finishMembers members)
  | .tables items => .array (finishItems items)

def finishMembers : List (String × Draft) → List (String × Value)
  | [] => []
  | (key, draft) :: members => (key, draft.finish) :: finishMembers members

def finishItems : List (List (String × Draft)) → List Value
  | [] => []
  | members :: items => .table (finishMembers members) :: finishItems items

end

end Draft

end Gatekeeper.Toml
