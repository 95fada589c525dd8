import BootSnapshot.Toml.Value

set_option autoImplicit false

namespace BootSnapshot.Toml

inductive Origin where
  /-- On the way to the table of a header. -/
  | passed
  /-- By a header of its own. -/
  | opened
  /-- By a key of several parts. -/
  | dotted
deriving DecidableEq

/-- What stands under a key. No table is opened twice and no value is given twice: every operation
here gives nothing rather than break this rule. -/
inductive Item where
  | value (content : Value)
  | table (origin : Origin) (members : List (String × Item))
  /-- Tables one after the other, of which the last is the one to write to. -/
  | tables (elements : List (List (String × Item)))

abbrev Members := List (String × Item)

mutual

def Item.toValue : Item → Value
  | .value content => content
  | .table _ members => .table (membersValue members)
  | .tables elements => .array (elementsValue elements)

def membersValue : List (String × Item) → List (String × Value)
  | [] => []
  | (key, item) :: rest => (key, item.toValue) :: membersValue rest

def elementsValue : List (List (String × Item)) → List Value
  | [] => []
  | members :: rest => .table (membersValue members) :: elementsValue rest

end

def find? (key : String) (members : Members) : Option Item :=
  (members.find? (·.1 = key)).map Prod.snd

/-- The members with another item under a key, which comes last if it is new. -/
def put (key : String) (item : Item) (members : Members) : Members :=
  if members.any (·.1 = key) then
    members.map fun (other, old) => if other = key then (key, item) else (other, old)
  else members ++ [(key, item)]

/-- Gives a value under a key of one or more parts. The table that it goes to is the one written to
if the key has one part, and one made by a key of several parts otherwise. -/
def assign? (members : Members) (content : Value) : List String → Option Members
  | [] => none
  | [key] =>
    match find? key members with
    | none => some (put key (.value content) members)
    | some _ => none
  | key :: rest =>
    match find? key members with
    | none => (assign? [] content rest).map fun inner => put key (.table .dotted inner) members
    | some (.table .dotted inner) =>
      (assign? inner content rest).map fun inner => put key (.table .dotted inner) members
    | some (.table .passed inner) =>
      if rest.length = 1 then none
      else (assign? inner content rest).map fun inner => put key (.table .passed inner) members
    | some (.tables elements) =>
      if rest.length = 1 then none
      else (assign? (elements.getLastD []) content rest).map fun inner =>
        put key (.tables (elements.dropLast ++ [inner])) members
    | some _ => none

/-- Changes the members of the table at the end of a path; tables on the way are made. -/
def reach? (change : Members → Option Members) (members : Members) :
    List String → Option Members
  | [] => change members
  | key :: rest =>
    match find? key members with
    | none => (reach? change [] rest).map fun inner => put key (.table .passed inner) members
    | some (.table origin inner) =>
      (reach? change inner rest).map fun inner => put key (.table origin inner) members
    | some (.tables elements) =>
      (reach? change (elements.getLastD []) rest).map fun inner =>
        put key (.tables (elements.dropLast ++ [inner])) members
    | some (.value _) => none

/-- Opens the table of a header, which comes last in the one that holds it. -/
def openTable? (members : Members) (path : List String) : Option Members :=
  let last := path.getLastD ""
  reach? (fun inner =>
    match find? last inner with
    | none => some (put last (.table .opened []) inner)
    | some (.table .passed held) =>
      some (inner.filter (·.1 ≠ last) ++ [(last, .table .opened held)])
    | some _ => none) members path.dropLast

/-- Opens one more table of an array of tables. -/
def openElement? (members : Members) (path : List String) : Option Members :=
  let last := path.getLastD ""
  reach? (fun inner =>
    match find? last inner with
    | none => some (put last (.tables [[]]) inner)
    | some (.tables elements) => some (put last (.tables (elements ++ [[]])) inner)
    | some _ => none) members path.dropLast

end BootSnapshot.Toml
